import NetSteward.Text.Charset
import NetSteward.Web.Parameterized
/-!
# Forms in parts

A form can be sent in parts, with a boundary line before each of them
and, with two hyphens at its end, after the last one. A part has headers
and a value; one header names the field, and says whether the value is
that of a file. A part that is not ended does not count, and neither
does anything after the last boundary. Names and values are written in
the character set of the form.
-/

namespace NetSteward

namespace Web

/-- The value of a field of a form. -/
inductive FieldValue
  | text (s : String)
  | file
deriving DecidableEq

/-- The fields of a form, in order. -/
abbrev Fields : Type := List (String × FieldValue)

namespace Multipart

/-- Why a form in parts is refused. -/
inductive Fault
  | malformed
  | noBoundary
  /-- A part does not name its field. -/
  | noName
  | tooManyFields
  | tooManyFiles
  /-- The value of a field is too long. -/
  | oversizedPart
  /-- The character set of the form refuses a name or a value. -/
  | undecodable
deriving DecidableEq

/-- The greatest number of fields of a form, and of files. -/
def countLimit : Nat := 1000

/-- The greatest length of a boundary. -/
def boundaryLimit : Nat := 256

/-- The greatest number of headers of a part. -/
def headerLimit : Nat := 8

/-- The greatest length of a header with its name. -/
def headerSizeLimit : Nat := 4096 + 128

/-- The greatest length of the value of a field. -/
def partSizeLimit : Nat := 1024 * 1024

/-- The message about a form that is refused. -/
def Fault.message : Fault → String
  | malformed => "Invalid multipart data."
  | noBoundary => "Missing boundary in multipart."
  | noName => "The Content-Disposition header field \"name\" must be provided."
  | tooManyFields =>
    "Too many fields. Maximum number of fields is " ++ toString countLimit ++ "."
  | tooManyFiles => "Too many files. Maximum number of files is " ++ toString countLimit ++ "."
  | oversizedPart =>
    "Part exceeded maximum size of " ++ toString (partSizeLimit / 1024) ++ "KB."
  | undecodable => "There was an error parsing the body"

/-- What is read from part of a text: a value and the bytes after it, or
nothing if the text ends before. -/
abbrev Reached (α : Type) : Type := Option (α × Bytes)

/-- The byte that starts a line end. -/
def cr : UInt8 := 13

/-- The byte that ends a line end. -/
def lf : UInt8 := 10

/-- A hyphen. -/
def hyphen : UInt8 := 45

/-- The text after a line end. -/
def lineEnd : Bytes → Except Fault (Reached Unit)
  | [] => .ok none
  | [b] => if b = cr then .ok none else .error .malformed
  | b :: c :: rest => if b = cr ∧ c = lf then .ok (some ((), rest)) else .error .malformed

/-! ## Headers -/

/-- Whether a byte may stand in the name of a header. -/
def isNameByte (b : UInt8) : Bool :=
  let c := Char.ofNat b.toNat
  c.toNat < 128 && (c.isAlphanum || "!#$%&'*+-.^_`|~".toList.contains c)

/-- The text of which each byte is a character. -/
def headerText (bytes : Bytes) : String := String.ofList (Charset.bytewise bytes)

/-- A header: its name in lower case and its value, up to the line
end. -/
def header (bytes : Bytes) : Except Fault (Reached (String × String)) :=
  let line := bytes.takeWhile (· != cr)
  let name := line.takeWhile isNameByte
  if headerSizeLimit < line.length then .error .malformed
  else match line.dropWhile isNameByte with
    | [] => if line.length < bytes.length then .error .malformed else .ok none
    | b :: value =>
      if b ≠ 58 ∨ name.isEmpty then .error .malformed
      else do
        match ← lineEnd (bytes.dropWhile (· != cr)) with
        | none => return none
        | some (_, rest) =>
          return some ((Text.asciiLower (headerText name),
            headerText (value.dropWhile (· == 32))), rest)

/-- The headers of a part, up to the empty line after them, with those
already read, and how many more there may be. -/
def headers : Nat → Keyed String → Bytes → Except Fault (Reached (Keyed String))
  | _, _, [] => .ok none
  | left, seen, b :: bytes =>
    if b = cr then do
      match ← lineEnd (b :: bytes) with
      | none => return none
      | some (_, rest) => return some (seen, rest)
    else match left with
      | 0 => .error .malformed
      | left + 1 => do
        match ← header (b :: bytes) with
        | none => return none
        | some ((name, value), rest) => headers left (Keyed.insert seen name value) rest

/-! ## Boundaries -/

/-- What follows the value of a part. -/
inductive Boundary
  /-- Another part. -/
  | next (rest : Bytes)
  | last
  /-- A line that is no boundary line, although a boundary starts it. -/
  | malformed
  /-- The text ends before the line does. -/
  | unended

/-- Whether a byte may stand between a boundary and the line end. -/
def isPadding (b : UInt8) : Bool := b == 32 || b == 9

/-- What follows a boundary with padding after it. -/
def padded (bytes : Bytes) : Boundary :=
  match lineEnd (bytes.dropWhile isPadding) with
  | .ok (some (_, rest)) => .next rest
  | .ok none => .unended
  | .error _ => .malformed

/-- The boundary at the start of a text, if there is one. -/
def boundary? (delimiter bytes : Bytes) : Option Boundary :=
  match Text.after? delimiter bytes with
  | some (b :: c :: rest) =>
    if b = cr ∧ c = lf then some (.next rest)
    else if b = hyphen ∧ c = hyphen then some .last
    else if isPadding b then some (padded (c :: rest))
    else none
  | _ => none

/-- The value of a part and the boundary after it. The value so far is
given in reverse. -/
def valueFrom (delimiter : Bytes) : (seen : Bytes) → Bytes → Bytes × Boundary
  | seen, [] => (seen.reverse, .unended)
  | seen, b :: bytes =>
    match boundary? delimiter (b :: bytes) with
    | some boundary => (seen.reverse, boundary)
    | none => valueFrom delimiter (b :: seen) bytes

/-! ## Parts -/

/-- What a name or a value of a form says in its character set. -/
def decoded (charset : String) (bytes : Bytes) : Except Fault String :=
  match Charset.read? charset bytes with
  | some cs => .ok (String.ofList cs)
  | none => .error .undecodable

/-- The bytes of a text of which each character is a byte. -/
def headerBytes (s : String) : Bytes := s.toList.map fun c => c.toNat.toUInt8

/-- The head of a part: the name of its field, and whether it is a
file. -/
structure Head where
  name : String
  isFile : Bool

/-- The name of a file without the folders before it, if it names the
drive or the computer that it comes from. -/
def fileName (name : String) : String :=
  match name.toList with
  | '\\' :: '\\' :: _ | _ :: ':' :: '\\' :: _ =>
    String.ofList (name.toList.reverse.takeWhile (· != '\\')).reverse
  | _ => name

/-- The head that the headers of a part give. The name of a file is read
too, although nothing hangs on it but that it can be read. -/
def headOf (charset : String) (headers : Keyed String) : Except Fault Head :=
  let disposition :=
    Parameterized.ofText ((Keyed.get? headers "content-disposition").getD "")
  match Keyed.get? disposition.parameters "name" with
  | none => .error .noName
  | some name => do
    let name ← decoded charset (headerBytes name)
    match Keyed.get? disposition.parameters "filename" with
    | none => return ⟨name, false⟩
    | some file =>
      let _ ← decoded charset (headerBytes (fileName file))
      return ⟨name, true⟩

/-- The field of a part with a value. -/
def field (charset : String) (head : Head) (value : Bytes) :
    Except Fault (String × FieldValue) :=
  if head.isFile then .ok (head.name, .file)
  else do return (head.name, .text (← decoded charset value))

/-- The parts of a form from the headers of one on, with so many fields
and files before it. The first argument bounds the number of parts. -/
def parts (charset : String) (delimiter : Bytes) :
    Nat → Nat → Nat → Bytes → Except Fault Fields
  | 0, _, _, _ => .ok []
  | fuel + 1, fields, files, bytes => do
    match ← headers headerLimit [] bytes with
    | none => return []
    | some (hs, rest) =>
      let head ← headOf charset hs
      let fields := if head.isFile then fields else fields + 1
      let files := if head.isFile then files + 1 else files
      if countLimit < files then .error .tooManyFiles
      else if countLimit < fields then .error .tooManyFields
      else
        let (value, boundary) := valueFrom delimiter [] rest
        if !head.isFile && partSizeLimit < value.length then .error .oversizedPart
        else match boundary with
          | .unended => return []
          | .malformed => .error .malformed
          | .last => return [← field charset head value]
          | .next rest =>
            return (← field charset head value) ::
              (← parts charset delimiter fuel fields files rest)

/-- The text after the first boundary, which may end early. -/
def start : Bytes → Bytes → Except Fault (Reached Unit)
  | _, [] => .ok none
  | d :: ds, b :: bytes => if b = d then start ds bytes else .error .malformed
  | [], b :: bytes =>
    if b = hyphen then
      if bytes.isEmpty ∨ bytes.head? = some hyphen then .ok none else .error .malformed
    else lineEnd (b :: bytes)

/-- A text without what may stand before the first boundary: everything
before a hyphen, if it starts with part of a line end. -/
def withoutPreamble (bytes : Bytes) : Bytes :=
  match bytes with
  | [] => []
  | b :: _ => if b = cr ∨ b = lf then bytes.dropWhile (· != hyphen) else bytes

/-- **The fields of a form in parts**, given the parameters of its content
type. -/
def fields (parameters : Keyed String) (bytes : Bytes) : Except Fault Fields :=
  match Keyed.get? parameters "boundary" with
  | none => .error .noBoundary
  | some boundary =>
    let delimiter := hyphen :: hyphen :: headerBytes boundary
    if boundaryLimit < boundary.length then .error .malformed
    else do
      match ← start delimiter (withoutPreamble bytes) with
      | none => return []
      | some (_, rest) =>
        parts ((Keyed.get? parameters "charset").getD "utf-8") (cr :: lf :: delimiter)
          rest.length 0 0 rest

end Multipart

end Web

end NetSteward
