import Classwright.Text.Basic

/-!
# Disk — paths

A path is a place to start from and the names to follow. Names that say nothing are dropped when a
path is read; a step to the parent directory stays, since it says where the path goes only once
there is a disk to follow it on.

* `Path`, `Path.ofText`, `Path.text`: paths, read and written.
* `Path.join`, `Path.parent?`: paths from paths.
-/

namespace Classwright

/-- The place that a path starts from. -/
inductive Anchor where
  /-- The working directory. -/
  | home
  /-- The root. -/
  | root
  /-- The root, written with two slashes. -/
  | doubledRoot
  deriving DecidableEq, Repr

namespace Anchor

/-- An anchor as it is written. -/
def text : Anchor → Text
  | home => []
  | root => "/"
  | doubledRoot => "//"

/-- The anchor of a path as it is written: exactly two slashes are kept apart from one, more are as
good as one. -/
def ofText : Text → Anchor
  | '/' :: '/' :: '/' :: _ => root
  | '/' :: '/' :: _ => doubledRoot
  | '/' :: _ => root
  | _ => home

end Anchor

/-- A path: the place to start from and the names to follow. -/
structure Path where
  anchor : Anchor := .home
  names : List Text := []
  deriving DecidableEq, Repr

namespace Path

/-- Does a name between slashes lead anywhere? -/
def isStep (name : Text) : Bool := name != [] && name != "."

/-- A path as it is written. -/
def ofText (t : Text) : Path where
  anchor := Anchor.ofText t
  names := (Text.split (· == '/') t).filter isStep

/-- The writing of a path; the empty path is a dot. -/
def text (path : Path) : Text :=
  match path.anchor, path.names with
  | .home, [] => "."
  | anchor, names => anchor.text ++ Text.join "/" names

/-- The path that goes on with another one; one that starts from a root starts afresh. -/
def join (path next : Path) : Path :=
  match next.anchor with
  | .home => { path with names := path.names ++ next.names }
  | _ => next

/-- The path without its last name, if it has one. -/
def parent? (path : Path) : Option Path :=
  if path.names = [] then none else some { path with names := path.names.dropLast }

/-- The path without its last name; a path without names is its own parent. -/
def parent (path : Path) : Path := path.parent?.getD path

theorem length_names_of_parent? {path up : Path} (h : path.parent? = some up) :
    up.names.length < path.names.length := by
  unfold parent? at h
  split at h
  · cases h
  · next hne =>
      cases h
      have : path.names.length ≠ 0 := by simpa using hne
      simp only [List.length_dropLast]
      omega

end Path

end Classwright
