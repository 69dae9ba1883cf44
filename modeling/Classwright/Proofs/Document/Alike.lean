import Classwright.Document.Description
import Classwright.Proofs.Outcome

/-!
# Document — computations that read alike

Reading a class asks for texts, one after the other, and besides looks at attributes, which can only
fail with a failure that is reported.  So two readings, by computations of whatever kind, make
computations that are alike of every class, as soon as they do so of every text and sequences of
what is alike are alike.

* `Reports`: a computation all of whose failures are reported.
* `Likeness`: a way in which computations of two kinds can be alike.
* `Likeness.Readings`: two readings make computations that are alike of every text.
* `describedClass_alike`: then they do so of every class.
-/

namespace Classwright.Document

open Outcome Xml

/-! ### Attributes -/

/-- If the computation fails, the command line reports it. -/
abbrev Reports {α : Type} (result : Except Error α) : Prop :=
  FailsIn (fun error => error.isReported = true) result

theorem required_reports (e : Element) (key : Text) : Reports (required e key) := by
  unfold required
  split
  · exact .error rfl
  · exact .ok _

theorem flag_reports (e : Element) (key : Text) (default : Bool) :
    Reports (flag e key default) := by
  unfold flag
  split
  · exact .ok _
  · dsimp only
    split
    · exact .ok _
    · split
      · exact .ok _
      · exact .error rfl

theorem said_reports {fault : Error} (t : Text) (h : fault.isReported = true) :
    Reports (said fault t) := by
  unfold said
  split
  · exact .error h
  · exact .ok _

/-! ### Likeness -/

/-- A way in which computations of two kinds can be alike: results are alike, and so are reported
failures; and sequences are alike whose parts are. -/
structure Likeness (m n : Type → Type) [Monad m] [MonadLiftT (Except Error) m]
    [Monad n] [MonadLiftT (Except Error) n] where
  alike {α : Type} : m α → n α → Prop
  pure {α : Type} (a : α) : alike (Pure.pure a) (Pure.pure a)
  lift {α : Type} {result : Except Error α} (h : Reports result) :
    alike (liftM result) (liftM result)
  bind {α β : Type} {first : m α} {other : n α} {next : α → m β} {further : α → n β}
    (h₁ : alike first other) (h₂ : ∀ a, alike (next a) (further a)) :
    alike (first >>= next) (other >>= further)

section Alike

variable {m n : Type → Type} [Monad m] [MonadLiftT (Except Error) m]
  [Monad n] [MonadLiftT (Except Error) n] {L : Likeness m n}

theorem Likeness.mapM [LawfulMonad m] [LawfulMonad n] {α β : Type} {f : α → m β} {g : α → n β}
    (h : ∀ x, L.alike (f x) (g x)) (xs : List α) : L.alike (xs.mapM f) (xs.mapM g) := by
  induction xs with
  | nil =>
      rw [List.mapM_nil, List.mapM_nil]
      exact L.pure []
  | cons x xs ih =>
      rw [List.mapM_cons, List.mapM_cons]
      exact L.bind (h x) fun _ => L.bind ih fun _ => L.pure _

/-- Of every text the readings make computations that are alike. -/
structure Likeness.Readings (L : Likeness m n) (read : Reading m) (other : Reading n) : Prop where
  text : ∀ t, L.alike (read.text t) (other.text t)
  code : ∀ t, L.alike (read.code t) (other.code t)

/-- Expansions that are alike make readings that are. -/
theorem Likeness.expanding {expand : Text → m Text} {further : Text → n Text}
    (h : ∀ t, L.alike (expand t) (further t)) :
    L.Readings (.expanding expand) (.expanding further) where
  text := h
  code t := L.bind (h t) fun _ => L.pure _

/-! ### Elements -/

variable {read : Reading m} {other : Reading n} (readings : L.Readings read other)

include readings

theorem requiredText_alike (e : Element) : L.alike (requiredText read e) (requiredText other e) :=
  L.bind (readings.text _) fun t => L.lift (said_reports t rfl)

theorem description_alike (e : Element) : L.alike (description read e) (description other e) := by
  unfold description
  split
  · exact L.bind (readings.text _) fun t => L.lift (said_reports t rfl)
  · exact L.bind (readings.text _) fun t => L.lift (said_reports t rfl)
  · exact L.bind (L.pure _) fun t => L.lift (said_reports t rfl)

theorem content?_alike (e : Element) : L.alike (content? read e) (content? other e) := by
  unfold content?
  split
  · exact L.pure _
  · exact L.bind (readings.code _) fun _ => L.pure _

theorem childContent?_alike (e : Element) (tag : Text) :
    L.alike (childContent? read e tag) (childContent? other e tag) := by
  unfold childContent?
  split
  · exact L.pure _
  · exact content?_alike readings _

theorem parameter_alike (e : Element) : L.alike (parameter read e) (parameter other e) :=
  L.bind (L.lift (required_reports e _)) fun _ => L.bind (readings.text _) fun _ => L.pure _

theorem constant_alike (e : Element) : L.alike (constant read e) (constant other e) :=
  L.bind (L.lift (required_reports e _)) fun _ => L.bind (L.lift (required_reports e _)) fun _ =>
    L.bind (description_alike readings e) fun _ => L.bind (L.lift (flag_reports e _ _)) fun _ =>
      L.pure _

theorem property_alike (e : Element) : L.alike (property read e) (property other e) :=
  L.bind (L.lift (required_reports e _)) fun _ => L.bind (description_alike readings e) fun _ =>
    L.bind (L.lift (flag_reports e _ _)) fun _ => L.bind (L.lift (flag_reports e _ _)) fun _ =>
      L.bind (childContent?_alike readings e _) fun _ =>
        L.bind (childContent?_alike readings e _) fun _ =>
          L.bind (L.lift (flag_reports e _ _)) fun _ => L.pure _

variable [LawfulMonad m] [LawfulMonad n]

theorem method_alike (v : Visibility) (e : Element) :
    L.alike (method read v e) (method other v e) :=
  L.bind (L.lift (required_reports e _)) fun _ => L.bind (description_alike readings e) fun _ =>
    L.bind (L.mapM (parameter_alike readings) _) fun _ =>
      L.bind (content?_alike readings e) fun _ => L.pure _

theorem member?_alike (v : Visibility) (e : Element) :
    L.alike (member? read v e) (member? other v e) := by
  unfold member?
  split
  · exact L.bind (method_alike readings v e) fun _ => L.pure _
  · split
    · exact L.bind (requiredText_alike readings e) fun _ => L.pure _
    · exact L.pure _

theorem members_alike (v : Visibility) (group : Element) :
    L.alike (members read v group) (members other v group) :=
  L.bind (L.mapM (member?_alike readings v) _) fun _ => L.pure _

theorem methods_alike (e : Element) (vs : List Visibility) :
    L.alike (methods read e vs) (methods other e vs) := by
  induction vs with
  | nil => exact L.pure _
  | cons v vs ih =>
      unfold methods
      split
      · exact ih
      · exact L.bind (members_alike readings v _) fun _ => L.bind ih fun _ => L.pure _

/-- Of every class the readings make computations that are alike. -/
theorem describedClass_alike (e : Element) :
    L.alike (describedClass read e) (describedClass other e) :=
  L.bind (L.lift (required_reports e _)) fun _ => L.bind (methods_alike readings e _) fun _ =>
    L.bind (description_alike readings e) fun _ => L.bind (readings.text _) fun _ =>
      L.bind (L.mapM (fun use => L.lift (required_reports use _)) _) fun _ =>
        L.bind (L.mapM (fun trait => L.lift (required_reports trait _)) _) fun _ =>
          L.bind (L.mapM (requiredText_alike readings) _) fun _ =>
            L.bind (L.mapM (constant_alike readings) _) fun _ =>
              L.bind (L.mapM (property_alike readings) _) fun _ => L.pure _

end Alike

end Classwright.Document
