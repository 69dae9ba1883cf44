import Classwright.Proofs.Disk.Change

/-!
# Disk — disks only grow

A directory is made and a file is created where nothing is.  So no step takes away or changes what
stood somewhere, whether it succeeds or fails, and neither does a run of such steps: a file that was
there keeps its content, and a path that led somewhere leads there still.

* `Disk.Grown`: all that stood somewhere stands there still.
* `Disk.find_of_grown`: what a path has led to, it leads to.
* `Disk.Grows`: an action that leaves a grown disk, whatever its result; kept by sequences.
* `Disk.makeDirectories_grows`, `Disk.createFile_grows`: the two changes of a disk.
-/

namespace Classwright.Disk

open Classwright.Action

/-! ### Grown disks -/

/-- What stood somewhere in `before` stands there in `after`, and the working directory is the
same. -/
structure Grown (before after : Disk) : Prop where
  home : after.home = before.home
  node : ∀ place found, before.node? place = some found → after.node? place = some found

namespace Grown

variable {before middle after : Disk}

theorem refl (disk : Disk) : Grown disk disk := ⟨rfl, fun _ _ h => h⟩

theorem trans (h₁ : Grown before middle) (h₂ : Grown middle after) : Grown before after :=
  ⟨h₂.home.trans h₁.home, fun place found h => h₂.node place found (h₁.node place found h)⟩

/-- A file keeps its content. -/
theorem fileAt? (h : Grown before after) {place : Place} {content : Bytes}
    (hf : before.fileAt? place = some content) : after.fileAt? place = some content := by
  rw [fileAt?_eq_some_iff] at hf ⊢
  exact h.node _ _ hf

end Grown

theorem grown_of_withNode {disk after : Disk} {path : Path} {node : Node}
    (h : disk.withNode path node = .ok after) : Grown disk after := by
  refine ⟨?_, fun place found hf => node?_of_withNode h hf⟩
  obtain ⟨place, -, -, rfl⟩ := withNode_eq_ok_iff.mp h
  rfl

/-- A path that leads to something is followed through directories to its target. -/
theorem of_find_eq_ok {disk : Disk} {path : Path} {node : Node} (h : disk.find path = .ok node) :
    (∀ p ∈ (disk.route path).dropLast, disk.node? p = some .directory) ∧
      disk.node? (disk.target path) = some node := by
  rcases follow_cases disk path with ⟨hf, dirs⟩ | ⟨hf, -⟩ | ⟨hf, -⟩
  · refine ⟨dirs, ?_⟩
    simp only [find, hf, bind, Except.bind] at h
    cases hn : disk.node? (disk.target path) with
    | none => rw [hn] at h; cases h
    | some found => rw [hn] at h; cases h; rfl
  · simp only [find, hf, bind, Except.bind] at h
    cases h
  · simp only [find, hf, bind, Except.bind] at h
    cases h

theorem follow_of_find {disk : Disk} {path : Path} {node : Node} (h : disk.find path = .ok node) :
    disk.follow path = .ok (disk.target path) := follow_eq_ok (of_find_eq_ok h).1

/-- What a path has led to, it leads to. -/
theorem find_of_grown {before after : Disk} {path : Path} {node : Node} (h : Grown before after)
    (hf : before.find path = .ok node) : after.find path = .ok node := by
  obtain ⟨dirs, last⟩ := of_find_eq_ok hf
  refine find_eq_ok (fun p hp => ?_) ?_
  · rw [route_congr h.home] at hp
    exact h.node p _ (dirs p hp)
  · rw [target_congr h.home]
    exact h.node _ _ last

/-! ### Actions that only add -/

/-- Whatever it starts from and whatever its result, the action leaves a grown disk. -/
def Grows {α : Type} (action : Action Disk α) : Prop :=
  ∀ start, Grown start.state (runFrom action start).2.state

namespace Grows

variable {α β : Type} {action : Action Disk α} {next : α → Action Disk β}

/-- An action that grows disks keeps what has grown from any disk. -/
theorem keeps (h : Grows action) (disk : Disk) : Keeps (fun s => Grown disk s.state) action :=
  fun start grown => grown.trans (h start)

theorem bind (h₁ : Grows action) (h₂ : ∀ a, Grows (next a)) : Grows (action >>= next) :=
  fun start => (h₁.keeps _).bind (fun a => (h₂ a).keeps _) start (.refl start.state)

theorem pure (a : α) : Grows (Pure.pure a : Action Disk α) := fun start => .refl start.state

theorem state : Grows (Action.state : Action Disk Disk) := fun start => .refl start.state

theorem log (level : Log.Level) (logger message : Text) :
    Grows (Action.log level logger message : Action Disk Unit) := fun start => .refl start.state

theorem ofExcept (result : Except Error α) : Grows (Action.ofExcept result : Action Disk α) := by
  intro start
  rw [runFrom_ofExcept]
  exact .refl start.state

end Grows

/-! ### Changes -/

theorem makeDirectory_grows (path : Path) : Grows (makeDirectory path) := by
  intro start
  rw [makeDirectory, runFrom_state_bind]
  cases hw : start.state.withDirectory path with
  | ok after => exact grown_of_withNode hw
  | error fault =>
      dsimp only
      split
      · exact .refl start.state
      · exact .refl start.state

theorem makeDirectories_grows (path : Path) : Grows (makeDirectories path) :=
  makeDirectories_induction (fun _ h => Grows.state.bind h) (fun _ _ h₁ h₂ => h₁.bind fun _ => h₂)
    makeDirectory_grows path

theorem createFile_grows (path : Path) (content : Text) : Grows (createFile path content) := by
  intro start
  rw [createFile, runFrom_state_bind]
  cases hw : start.state.withFile path content with
  | ok after => exact grown_of_withNode hw
  | error fault => cases fault <;> exact .refl start.state

end Classwright.Disk
