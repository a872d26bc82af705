import AnalyticsQuery.Text.Numeral
import AnalyticsQuery.Yaml.Token

/-!
# Names, tags and directives
-/

namespace AnalyticsQuery.Yaml

def isNameChar (char : Char) : Bool :=
  char.isAlphanum || char == '-' || char == '_'

/-- The name of an anchor or alias, after its indicator. -/
def takeName (cursor : Cursor) : Except ReadError (String × Cursor) :=
  let (name, cursor) := cursor.takeWhile isNameChar
  let ends := cursor.peek?.all fun char =>
    isBlank char || ['?', ':', ',', ']', '\x7d', '%', '@', '\x60'].contains char
  if name.isEmpty || !ends then .error .lexical else .ok (String.ofList name, cursor)

/-- A handle between exclamation marks, or one alone. -/
def takeTagHandle (cursor : Cursor) : Except ReadError (String × Cursor) :=
  match cursor.rest with
  | '!' :: ' ' :: _ => .ok ("!", cursor.next)
  | '!' :: rest =>
      let name := rest.takeWhile isNameChar
      if (rest.drop name.length).head? = some '!' then
        .ok (String.ofList ('!' :: name ++ ['!']), cursor.forward (name.length + 2))
      else .error .lexical
  | _ => .error .lexical

def isTagChar (char : Char) : Bool :=
  char.isAlphanum || "-;/?:@&=+$,_.!~*'()[]".toList.contains char

/-- Bytes written as percent signs with two hexadecimal digits. -/
def takeBytes : Nat → Cursor → Except ReadError (List UInt8 × Cursor)
  | 0, _ => .error .lexical
  | fuel + 1, cursor =>
      match cursor.rest with
      | '%' :: high :: low :: _ =>
          match Numeral.readHex? [high, low] with
          | none => .error .lexical
          | some byte => do
              let (more, cursor) ← takeBytes fuel (cursor.forward 3)
              return (UInt8.ofNat byte :: more, cursor)
      | '%' :: _ => .error .lexical
      | _ => .ok ([], cursor)

/-- Text of a tag, in which some characters are written as bytes. -/
def takeTagText : Nat → Cursor → Except ReadError (List Char × Cursor)
  | 0, _ => .error .lexical
  | fuel + 1, cursor =>
      match cursor.peek? with
      | none => .ok ([], cursor)
      | some char =>
          if char = '%' then do
            let (bytes, cursor) ← takeBytes (cursor.rest.length + 1) cursor
            match String.fromUTF8? ⟨bytes.toArray⟩ with
            | none => .error .lexical
            | some text =>
                let (more, cursor) ← takeTagText fuel cursor
                return (text.toList ++ more, cursor)
          else if isTagChar char then do
            let (more, cursor) ← takeTagText fuel cursor.next
            return (char :: more, cursor)
          else .ok ([], cursor)

def takeTagName (cursor : Cursor) : Except ReadError (String × Cursor) := do
  let (name, after) ← takeTagText (cursor.rest.length + 1) cursor
  if after.index = cursor.index then .error .lexical else return (String.ofList name, after)

def endsTag (cursor : Cursor) : Bool :=
  cursor.peek?.all fun char => isSpace char || isBreak char

/-- A tag in one of its forms: as it is between angle brackets, the mark alone, or a
name after a handle. -/
def takeTag (cursor : Cursor) : Except ReadError (Token × Cursor) := do
  let (handle, name, cursor) ← match cursor.rest with
    | '!' :: '<' :: _ => do
        let (name, cursor) ← takeTagName (cursor.forward 2)
        if cursor.peek? = some '>' then pure (none, name, cursor.next) else .error .lexical
    | '!' :: rest =>
        if rest.head?.all isBlank then pure (none, "!", cursor.next)
        else do
          let word := rest.takeWhile fun char => !(isSpace char || isBreak char)
          let (handle, cursor) ←
            if word.contains '!' then takeTagHandle cursor else pure ("!", cursor.next)
          let (name, cursor) ← takeTagName cursor
          pure (some handle, name, cursor)
    | _ => .error .lexical
  if endsTag cursor then return (.tag handle name, cursor) else .error .lexical

def takeNumber (cursor : Cursor) : Except ReadError (Nat × Cursor) :=
  let (digits, cursor) := cursor.takeWhile Numeral.isDigit
  match Numeral.readDigits? digits with
  | some value => .ok (value, cursor)
  | none => .error .lexical

def takeVersion (cursor : Cursor) : Except ReadError (Directive × Cursor) := do
  let (major, cursor) ← takeNumber (cursor.skipWhile isSpace)
  if cursor.peek? ≠ some '.' then .error .lexical
  let (_, cursor) ← takeNumber cursor.next
  if endsTag cursor then return (.version major, cursor) else .error .lexical

def takeHandle (cursor : Cursor) : Except ReadError (Directive × Cursor) := do
  let (name, cursor) ← takeTagHandle (cursor.skipWhile isSpace)
  if cursor.peek? ≠ some ' ' then .error .lexical
  let (replacement, cursor) ← takeTagName (cursor.skipWhile isSpace)
  if endsTag cursor then return (.handle name replacement, cursor) else .error .lexical

/-- A line with a directive, from its percent sign on. -/
def takeDirective (cursor : Cursor) : Except ReadError (Token × Cursor) := do
  let (name, cursor) := cursor.next.takeWhile isNameChar
  if name.isEmpty || !endsTag cursor then .error .lexical
  let (directive, cursor) ← match String.ofList name with
    | "YAML" => takeVersion cursor
    | "TAG" => takeHandle cursor
    | _ => pure (.unknown, cursor.skipWhile fun char => !isBreak char)
  return (.directive directive, ← skipLineEnd cursor)

end AnalyticsQuery.Yaml
