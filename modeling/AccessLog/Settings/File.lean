/-
Files of settings: one name and value to a line.

* `SettingsFile.binding`: the name and value at the front of a text. A value may
  stand in quotes, with escapes and over several lines; without quotes it ends
  with the line or with a comment. A line that cannot be read is passed over.
* `SettingsFile.bindings`: all names and values of a text; a name without an equals
  sign has no value.
* `SettingsFile.expand`: a value with the names in it replaced by what they stand for.
* `SettingsFile.read`: the table of a text, where later values of a name count.
-/
import AccessLog.Table
import AccessLog.Text.Blank

namespace AccessLog.SettingsFile

/-- A line end. -/
def isLineEnd (c : CodePoint) : Bool :=
  c = '\n' || c = '\r'

/-- A blank within a line. -/
def isInlineBlank (c : CodePoint) : Bool :=
  c.isBlank && !isLineEnd c

/-- The text up to the closing quote, where an escaped quote does not close
unless no other follows; `done` is the part before, last code point first. -/
def closing (mark : CodePoint) (done : Text) (fallback : Option (Text × Text)) :
    Text → Option (Text × Text)
  | [] => fallback
  | [c] => if c = mark then some (done.reverse, []) else fallback
  | c :: d :: rest =>
    if c = mark then some (done.reverse, d :: rest)
    else if c = '\\' && d = mark then
      closing mark (d :: c :: done) (some ((c :: done).reverse, rest)) rest
    else closing mark (c :: done) fallback (d :: rest)

/-- What a backslash and a letter stand for between double quotes. -/
def escape? (c : CodePoint) : Option CodePoint :=
  if c = '\\' || c = '\'' || c = '"' then some c
  else if c = 'a' then some (.ofNat 7)
  else if c = 'b' then some (.ofNat 8)
  else if c = 'f' then some (.ofNat 12)
  else if c = 'n' then some (.ofNat 10)
  else if c = 'r' then some (.ofNat 13)
  else if c = 't' then some (.ofNat 9)
  else if c = 'v' then some (.ofNat 11)
  else none

/-- What a backslash and a letter stand for between single quotes. -/
def plainEscape? (c : CodePoint) : Option CodePoint :=
  if c = '\\' || c = '\'' then some c else none

/-- A text with its escapes replaced. -/
def unescape (escapes : CodePoint → Option CodePoint) : Text → Text
  | [] => []
  | [c] => [c]
  | c :: d :: rest =>
    if c = '\\' then
      match escapes d with
      | some e => e :: unescape escapes rest
      | none => c :: unescape escapes (d :: rest)
    else c :: unescape escapes (d :: rest)

/-- Without a comment, which starts with a number sign behind a blank. -/
def withoutComment (afterBlank : Bool) : Text → Text
  | [] => []
  | c :: rest =>
    if afterBlank && c = '#' then [] else c :: withoutComment c.isBlank rest

/-- A value without quotes: up to the end of the line, without a comment and
without the blanks at the end. -/
def unquoted (t : Text) : Text × Text :=
  let line := t.takeWhile fun c => !isLineEnd c
  (((withoutComment false line).reverse.dropWhile CodePoint.isBlank).reverse,
    t.dropWhile fun c => !isLineEnd c)

/-- The value at the front of a text with the rest, or where reading stopped. -/
def value (t : Text) : Except Text (Text × Text) :=
  match t with
  | [] => .ok ([], [])
  | c :: rest =>
    if c = '\'' then match closing c [] none rest with
      | some (v, rest) => .ok (unescape plainEscape? v, rest)
      | none => .error t
    else if c = '"' then match closing c [] none rest with
      | some (v, rest) => .ok (unescape escape? v, rest)
      | none => .error t
    else .ok (unquoted t)

/-- A code point of a name without quotes. -/
def isNameChar (c : CodePoint) : Bool :=
  !(c = '=' || c = '#' || c.isBlank)

/-- The name at the front of a text with the rest, or where reading stopped; a
comment has no name. -/
def name (t : Text) : Except Text (Option Text × Text) :=
  match t with
  | [] => .error t
  | c :: rest =>
    if c = '#' then .ok (none, t)
    else if c = '\'' then match Text.cut c rest with
      | (n, some rest) => if n.isEmpty then .error t else .ok (some n, rest)
      | (_, none) => .error t
    else
      let n := t.takeWhile isNameChar
      if n.isEmpty then .error t else .ok (some n, t.dropWhile isNameChar)

/-- Without the word that some shells want in front of a name. -/
def withoutExport (t : Text) : Text :=
  match Text.dropLead? "export" t with
  | some rest =>
    match rest with
    | c :: _ => if isInlineBlank c then rest.dropWhile isInlineBlank else t
    | [] => t
  | none => t

/-- Behind a comment, if one stands here. -/
def afterComment (t : Text) : Text :=
  match t.dropWhile isInlineBlank with
  | c :: rest => if c = '#' then rest.dropWhile fun c => !isLineEnd c else t
  | [] => t

/-- Behind the end of the line, which must stand here. -/
def lineEnd (t : Text) : Except Text (Unit × Text) :=
  match t.dropWhile isInlineBlank with
  | [] => .ok ((), [])
  | c :: rest => if isLineEnd c then .ok ((), rest) else .error t

/-- Behind the rest of the line. -/
def nextLine (t : Text) : Text :=
  (t.dropWhile fun c => !isLineEnd c).tail

/-- The name and the value at the front of a text. -/
def binding (t : Text) : Except Text (Option (Text × Option Text) × Text) := do
  let (n, t) ← name (withoutExport t)
  let t := t.dropWhile isInlineBlank
  let (v, t) ← match t with
    | c :: rest =>
      if c = '=' then (value (rest.dropWhile isInlineBlank)).map fun (v, t) => (some v, t)
      else .ok (none, t)
    | [] => .ok (none, t)
  let ((), t) ← lineEnd (afterComment t)
  return (n.map fun n => (n, v), t)

/-- All names and values of a text of less than `fuel` code points. -/
def bindingsFrom : (fuel : Nat) → Text → List (Text × Option Text)
  | 0, _ => []
  | fuel + 1, t =>
    match t.dropWhile CodePoint.isBlank with
    | [] => []
    | t => match binding t with
      | .ok (some b, rest) => b :: bindingsFrom fuel rest
      | .ok (none, rest) => bindingsFrom fuel rest
      | .error rest => bindingsFrom fuel (nextLine rest)

/-- Line ends as single line feeds. -/
def unifyLineEnds : Text → Text
  | [] => []
  | [c] => if c = '\r' then ['\n'] else [c]
  | c :: d :: rest =>
    if c = '\r' then
      if d = '\n' then d :: unifyLineEnds rest else .ofNat 10 :: unifyLineEnds (d :: rest)
    else c :: unifyLineEnds (d :: rest)

/-- All names and values of a text. -/
def bindings (t : Text) : List (Text × Option Text) :=
  let t := unifyLineEnds t
  bindingsFrom (t.length + 1) t

/-! ### Names inside values -/

/-- The name and the default of a reference behind its opening brace, with the
rest of the text. -/
def reference? (t : Text) : Option (Text × Option Text × Text) :=
  let isPart (c : CodePoint) : Bool := c ≠ '}' && c ≠ ':'
  let n := t.takeWhile isPart
  match t.dropWhile isPart with
  | c :: rest =>
    if c = '}' then some (n, none, rest)
    else match rest with
      | d :: rest =>
        if d = '-' then match Text.cut '}' rest with
          | (default, some rest) => some (n, some default, rest)
          | (_, none) => none
        else none
      | [] => none
  | [] => none

/-- A value with its references replaced by what `lookup` gives, or else by
their defaults, for a value of at most `fuel` code points. -/
def expandFrom (lookup : Text → Option Text) : (fuel : Nat) → Text → Text
  | 0, t => t
  | _, [] => []
  | fuel + 1, c :: rest =>
    let plain := c :: expandFrom lookup fuel rest
    match Text.dropLead? "$\x7b" (c :: rest) with
    | some inside => match reference? inside with
      | some (n, default, rest) =>
        (lookup n).getD (default.getD []) ++ expandFrom lookup fuel rest
      | none => plain
    | none => plain

/-- A value with its references replaced. -/
def expand (lookup : Text → Option Text) (t : Text) : Text :=
  expandFrom lookup t.length t

/-- What a name stands for: a value above it in the file, or one of the
environment. -/
def lookup (environment : Table Text) (above : Table (Option Text)) (n : Text) : Option Text :=
  match above.get? n with
  | some v => some (v.getD [])
  | none => environment.get? n

/-- The names and values of a text, where values may refer to names above them
and to the environment. -/
def read (environment : Table Text) (t : Text) : Table (Option Text) :=
  (bindings t).foldl (fun above (n, v) =>
    above.put n (v.map (expand (lookup environment above)))) []

end AccessLog.SettingsFile
