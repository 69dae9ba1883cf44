import Classwright.Table
import Classwright.Text.Blank

/-!
# Config — files of variables

A file of variables binds names to values, one binding a line unless a value between quotes goes on
over several. A value may name variables of the environment and of bindings above it. A line that is
no binding is passed over.

* `Environment`: variables and their values.
* `Bindings`: names with the values that a file binds to them, if it does.
* `Bindings.ofText`: the bindings of a file.
-/

namespace Classwright

/-- Variables and their values. -/
abbrev Environment := Table Text Text

/-- The value of a variable, if it has one. -/
def Environment.value? (environment : Environment) (name : Text) : Option Text :=
  Table.find? name environment

/-- Names with the values bound to them; a name may be mentioned without one. -/
abbrev Bindings := Table Text (Option Text)

namespace Bindings

/-! ### Values -/

/-- A text up to the quote that closes it, and what follows. A quote behind a backslash does not
close, unless no other does. -/
def upToQuote (quote : Char) : Text → Option (Text × Text)
  | [] => none
  | '\\' :: c :: rest =>
      if c = quote then
        match upToQuote quote rest with
        | some (found, left) => some ('\\' :: c :: found, left)
        | none => some (['\\'], rest)
      else (upToQuote quote (c :: rest)).map fun found => ('\\' :: found.1, found.2)
  | c :: rest =>
      if c = quote then some ([], rest)
      else (upToQuote quote rest).map fun found => (c :: found.1, found.2)

/-- The characters that have an escape between single quotes. -/
def singleEscapes : Table Char Char := [('\\', '\\'), ('\'', '\'')]

/-- The characters that have an escape between double quotes. -/
def doubleEscapes : Table Char Char :=
  [('\\', '\\'), ('\'', '\''), ('"', '"'), ('a', '\x07'), ('b', '\x08'), ('f', '\x0c'),
    ('n', '\n'), ('r', '\r'), ('t', '\t'), ('v', '\x0b')]

/-- The text with its escapes replaced. -/
def unescaped (escapes : Table Char Char) : Text → Text
  | '\\' :: mark :: rest =>
      match escapes.find? mark with
      | some c => c :: unescaped escapes rest
      | none => '\\' :: unescaped escapes (mark :: rest)
  | c :: rest => c :: unescaped escapes rest
  | [] => []

/-- The text in front of a comment that white space sets off. -/
def beforeComment : Text → Text
  | [] => []
  | c :: cs =>
      if blank c && (cs.dropWhile blank).head? == some '#' then [] else c :: beforeComment cs

/-- What is left of a text behind the end of its first line. -/
def nextLine (t : Text) : Text := (t.dropWhile (· != '\n')).drop 1

/-- The value that a text begins with, and what follows; none when a quote is never closed. -/
def valueAt? : Text → Option (Text × Text)
  | '\'' :: rest => (upToQuote '\'' rest).map fun found => (unescaped singleEscapes found.1, found.2)
  | '"' :: rest => (upToQuote '"' rest).map fun found => (unescaped doubleEscapes found.1, found.2)
  | t =>
      some (Text.trimEnd (beforeComment (t.takeWhile (· != '\n'))), t.dropWhile (· != '\n'))

/-! ### Bindings -/

/-- The text behind the word that marks variables for export, if it begins with it. -/
def afterExport (t : Text) : Text :=
  match Text.after? "export" t with
  | some (c :: rest) => if inlineBlank c then rest.dropWhile inlineBlank else t
  | _ => t

/-- Can a name without quotes hold the character? -/
def isBare (c : Char) : Bool := !blank c && c != '=' && c != '#'

/-- The name that a text begins with, and what follows; a comment has none. -/
def nameAt? : Text → Option (Option Text × Text)
  | '#' :: rest => some (none, '#' :: rest)
  | '\'' :: rest =>
      match rest.takeWhile (· != '\''), rest.dropWhile (· != '\'') with
      | c :: name, _ :: left => some (some (c :: name), left)
      | _, _ => none
  | t => if t.takeWhile isBare = [] then none else some (some (t.takeWhile isBare), t.dropWhile isBare)

/-- What follows the end of a line with nothing more than a comment on it. -/
def lineEnd? (t : Text) : Option Text :=
  let t := t.dropWhile inlineBlank
  let t := if t.head? = some '#' then t.dropWhile (· != '\n') else t
  match t with
  | [] => some []
  | '\n' :: rest => some rest
  | _ => none

/-- The binding that a text begins with, if that is one, and what follows it. -/
def bindingAt (t : Text) : Option (Text × Option Text) × Text :=
  let t := afterExport (t.dropWhile blank)
  match nameAt? t with
  | none => (none, nextLine t)
  | some (name?, rest) =>
      let rest := rest.dropWhile inlineBlank
      let value? : Option (Option Text × Text) :=
        match rest with
        | '=' :: behind => (valueAt? (behind.dropWhile inlineBlank)).map fun v => (some v.1, v.2)
        | _ => some (none, rest)
      match value? with
      | none => (none, nextLine rest)
      | some (value, rest) =>
          match lineEnd? rest with
          | none => (none, nextLine rest)
          | some left => (name?.map (·, value), left)

/-- At most `bound` bindings of a text, in order. -/
def raw : (bound : Nat) → Text → List (Text × Option Text)
  | 0, _ => []
  | _, [] => []
  | bound + 1, t =>
      match bindingAt t with
      | (none, rest) => raw bound rest
      | (some binding, rest) => binding :: raw bound rest

/-! ### Variables in values -/

/-- A reference to a variable, perhaps with a text for the case that there is none, after its
opening; and what follows it. -/
def referenceAt? (t : Text) : Option ((Text × Text) × Text) :=
  let name := t.takeWhile fun c => c != '\x7d' && c != ':'
  match t.dropWhile fun c => c != '\x7d' && c != ':' with
  | '}' :: rest => some ((name, []), rest)
  | ':' :: '-' :: rest =>
      match rest.dropWhile (· != '\x7d') with
      | _ :: left => some ((name, rest.takeWhile (· != '\x7d')), left)
      | [] => none
  | _ => none

/-- The text with its references replaced; `look` tells the value of a variable, given what stands
for it if there is none. -/
def replaced (look : Text → Text → Text) : (bound : Nat) → Text → Text
  | 0, t => t
  | _, [] => []
  | bound + 1, c :: cs =>
      match (Text.after? "$\x7b" (c :: cs)).bind referenceAt? with
      | some ((name, otherwise), rest) => look name otherwise ++ replaced look bound rest
      | none => c :: replaced look bound cs

/-- The value of a variable: that of a binding above, else that of the environment. -/
def look (environment : Environment) (above : Bindings) (name otherwise : Text) : Text :=
  match above.find? name with
  | some value => value.getD []
  | none => (environment.value? name).getD otherwise

/-- Bindings with the references in their values replaced; the last of a name counts. -/
def resolved (environment : Environment) (raw : List (Text × Option Text)) : Bindings :=
  raw.foldl (fun above (name, value) =>
    above.insert name (value.map fun t => replaced (look environment above) (t.length + 1) t)) []

/-- The bindings of a file. -/
def ofText (environment : Environment) (t : Text) : Bindings :=
  resolved environment (raw t.length t)

end Bindings

end Classwright
