import AdmissionControl.Json.Fault
import AdmissionControl.Json.Number
import AdmissionControl.Text.Bytes

/-!
# Reading JSON documents

A document is read one byte at a time. A stack holds the lists and tables that are still open, and a
mode says what has begun or may come next, so reading is a fold and ends at the first byte that
cannot belong to a document. Of several entries with one key the last counts.
-/

namespace AdmissionControl.Json

/-- A list or a table that is still open. -/
inductive Frame where
  | list (items : List Tree)
  /-- A table with the key that was read last. -/
  | table (entries : List (List Char × Tree)) (key : List Char)

/-- What may come next between the parts of a document. -/
inductive Expected where
  | value
  /-- What follows the beginning of a list. -/
  | itemOrEnd
  /-- What follows the comma of a list. -/
  | item
  | commaOrListEnd
  /-- What follows the beginning of a table. -/
  | keyOrEnd
  /-- What follows the comma of a table. -/
  | key
  | colon
  | commaOrTableEnd
  /-- Nothing, since the document is complete. -/
  | nothing (document : Tree)

/-- The part of a quoted text that has begun. -/
inductive Escape where
  | none
  /-- A backslash. -/
  | begun
  /-- The digits of a character by its number in UTF-16, after its first half if that came. -/
  | digits (high : Option Nat) (read : List Char)
  /-- A first half, which another escape has to follow. -/
  | beforeLow (high : Nat)
  /-- A first half and the backslash of another escape. -/
  | inLow (high : Nat)

/-- What reading is in the middle of. The bytes of a quoted text are kept backwards. -/
inductive Mode where
  | between (expected : Expected)
  /-- A word of which some characters are still to come. -/
  | word (rest : List Char) (value : Scalar)
  | number (numeral : Numeral)
  | text (isKey : Bool) (reversed : List UInt8) (escape : Escape)

/-- How far a document has been read; the innermost open part comes first. -/
structure Reader where
  origin : Option Origin
  place : Place := {}
  stack : List Frame := []
  mode : Mode := .between .value

namespace Frame

/-- How many lists and tables can be open at once. -/
def greatestDepth : Nat := 127

/-- The value of a list or a table that ends. -/
def value (origin : Option Origin) : Frame → Tree
  | .list items => .list items origin
  | .table entries _ => .table entries origin

/-- The innermost open part with one more value, and what may come after it. -/
def put (value : Tree) : List Frame → List Frame × Expected
  | [] => ([], .nothing value)
  | .list items :: outer => (.list (items ++ [value]) :: outer, .commaOrListEnd)
  | .table entries key :: outer =>
      (.table (Tree.changeEntry (fun _ => value) key entries) key :: outer, .commaOrTableEnd)

/-- The stack after its innermost part has ended, and what may come then. -/
def close (origin : Option Origin) : List Frame → List Frame × Expected
  | [] => ([], .value)
  | frame :: outer => put (frame.value origin) outer

/-- The stack after a key has been read. -/
def setKey (key : List Char) : List Frame → List Frame
  | .table entries _ :: outer => .table entries key :: outer
  | stack => stack

end Frame

/-- What is wrong with a document that ends where something else is expected. -/
def Expected.causeAtEnd : Expected → Cause
  | .itemOrEnd | .commaOrListEnd => .endInList
  | .keyOrEnd | .colon | .commaOrTableEnd => .endInTable
  | .value | .item | .key | .nothing _ => .endInValue

/-- Whether a character only separates the parts of a document. -/
def isSeparator (character : Char) : Bool :=
  character = ' ' || character = '\n' || character = '\r' || character = '\t'

/-- The word that a character begins: what follows the character, and the value. -/
def wordOf? (character : Char) : Option (List Char × Scalar) :=
  if character = 'n' then some ("ull".toList, .nothing)
  else if character = 't' then some ("rue".toList, .flag true)
  else if character = 'f' then some ("alse".toList, .flag false)
  else none

/-- The character that a short escape stands for. -/
def shortEscape? (mark : Char) : Option Char :=
  if mark = '"' then some '"'
  else if mark = '\\' then some '\\'
  else if mark = '/' then some '/'
  else if mark = 'b' then some '\x08'
  else if mark = 'f' then some '\x0c'
  else if mark = 'n' then some '\n'
  else if mark = 'r' then some '\r'
  else if mark = 't' then some '\t'
  else none

/-- The value of a hexadecimal digit. -/
def hexDigit? (character : Char) : Option Nat :=
  let number := character.toNat
  if character.isDigit then some (number - 48)
  else if 'a' ≤ character ∧ character ≤ 'f' then some (number - 87)
  else if 'A' ≤ character ∧ character ≤ 'F' then some (number - 55)
  else none

/-- The number of hexadecimal digits. -/
def hexNumber? (digits : List Char) : Option Nat :=
  digits.foldlM (fun number digit => (hexDigit? digit).map (number * 16 + ·)) 0

namespace Reader

/-- Ends the reading at its place. -/
def fail {α : Type} (reader : Reader) (cause : Cause) : Except Fault α :=
  .error ⟨cause, reader.place⟩

/-- Goes on with what may come next. -/
def expect (reader : Reader) (next : List Frame × Expected) : Reader :=
  { reader with stack := next.1, mode := .between next.2 }

/-- Takes a value that is complete. -/
def put (reader : Reader) (value : Scalar) : Reader :=
  reader.expect (Frame.put (.scalar value reader.origin) reader.stack)

/-- Ends the innermost open part. -/
def close (reader : Reader) : Reader := reader.expect (Frame.close reader.origin reader.stack)

/-- Opens a list or a table, if the depth allows it. -/
def openPart (reader : Reader) (frame : Frame) (expected : Expected) : Except Fault Reader :=
  if reader.stack.length < Frame.greatestDepth then
    .ok (reader.expect (frame :: reader.stack, expected))
  else
    reader.fail .tooDeep

/-- Takes the first character of a value. -/
def startValue (reader : Reader) (character : Char) : Except Fault Reader :=
  if character = '[' then reader.openPart (.list []) .itemOrEnd
  else if character = '\x7b' then reader.openPart (.table [] []) .keyOrEnd
  else if character = '"' then .ok { reader with mode := .text false [] .none }
  else
    match wordOf? character, Numeral.start? character with
    | some (rest, value), _ => .ok { reader with mode := .word rest value }
    | none, some numeral => .ok { reader with mode := .number numeral }
    | none, none => reader.fail .noValue

/-- Takes the first character of a key, or refuses it. -/
def startKey (reader : Reader) (character : Char) : Except Fault Reader :=
  if character = '"' then .ok { reader with mode := .text true [] .none } else reader.fail .noKey

/-- Takes a character between the parts of a document. -/
def takeBetween (reader : Reader) (expected : Expected) (character : Char) :
    Except Fault Reader :=
  if isSeparator character then .ok { reader with mode := .between expected }
  else
    match expected with
    | .value => reader.startValue character
    | .itemOrEnd => if character = ']' then .ok reader.close else reader.startValue character
    | .item =>
        if character = ']' then reader.fail .trailingComma else reader.startValue character
    | .commaOrListEnd =>
        if character = ',' then .ok { reader with mode := .between .item }
        else if character = ']' then .ok reader.close
        else reader.fail .noListEnd
    | .keyOrEnd => if character = '\x7d' then .ok reader.close else reader.startKey character
    | .key =>
        if character = '\x7d' then reader.fail .trailingComma else reader.startKey character
    | .colon =>
        if character = ':' then .ok { reader with mode := .between .value }
        else reader.fail .noColon
    | .commaOrTableEnd =>
        if character = ',' then .ok { reader with mode := .between .key }
        else if character = '\x7d' then .ok reader.close
        else reader.fail .noTableEnd
    | .nothing _ => reader.fail .trailingCharacters

/-- Takes a quoted text that is complete. -/
def putText (reader : Reader) (isKey : Bool) (reversed : List UInt8) : Except Fault Reader :=
  match Text.decode? reversed.reverse with
  | none => reader.fail .undecodable
  | some text =>
      if isKey then .ok (reader.expect (Frame.setKey text reader.stack, .colon))
      else .ok (reader.put (.text text))

/-- Takes the last digit of a character by its number. Halves count only in pairs. -/
def putNumbered (reader : Reader) (isKey : Bool) (reversed : List UInt8) (high : Option Nat)
    (digits : List Char) : Except Fault Reader :=
  let put (number : Nat) : Except Fault Reader :=
    let bytes := String.utf8EncodeChar (.ofNat number)
    .ok { reader with mode := .text isKey (bytes.reverse ++ reversed) .none }
  match hexNumber? digits, high with
  | none, _ => reader.fail .badEscape
  | some number, none =>
      if 0xdc00 ≤ number && number < 0xe000 then reader.fail .unpairedHalf
      else if 0xd800 ≤ number && number < 0xdc00 then
        .ok { reader with mode := .text isKey reversed (.beforeLow number) }
      else put number
  | some number, some high =>
      if 0xdc00 ≤ number && number < 0xe000 then
        put (0x10000 + (high - 0xd800) * 0x400 + (number - 0xdc00))
      else reader.fail .unpairedHalf

/-- Takes a byte of a quoted text. -/
def takeText (reader : Reader) (isKey : Bool) (reversed : List UInt8) (escape : Escape)
    (byte : UInt8) : Except Fault Reader :=
  let character := Char.ofNat byte.toNat
  let stay (escape : Escape) : Except Fault Reader :=
    .ok { reader with mode := .text isKey reversed escape }
  match escape with
  | .none =>
      if character = '"' then reader.putText isKey reversed
      else if character = '\\' then stay .begun
      else if byte < 0x20 then reader.fail .controlCharacter
      else .ok { reader with mode := .text isKey (byte :: reversed) .none }
  | .begun =>
      if character = 'u' then stay (.digits none [])
      else
        match shortEscape? character with
        | some meant =>
            let bytes := String.utf8EncodeChar meant
            .ok { reader with mode := .text isKey (bytes.reverse ++ reversed) .none }
        | none => reader.fail .badEscape
  | .digits high read =>
      let digits := read ++ [character]
      if digits.length < 4 then stay (.digits high digits)
      else reader.putNumbered isKey reversed high digits
  | .beforeLow high =>
      if character = '\\' then stay (.inLow high) else reader.fail .missingHalf
  | .inLow high =>
      if character = 'u' then stay (.digits (some high) []) else reader.fail .missingHalf

/-- Takes a character after a word has begun. -/
def takeWord (reader : Reader) (rest : List Char) (value : Scalar) (character : Char) :
    Except Fault Reader :=
  match rest with
  | [last] => if character = last then .ok (reader.put value) else reader.fail .unknownWord
  | next :: rest =>
      if character = next then .ok { reader with mode := .word rest value }
      else reader.fail .unknownWord
  | [] => reader.fail .unknownWord

/-- The reader after a number has ended. -/
def endNumber (reader : Reader) (numeral : Numeral) : Except Fault Reader :=
  match numeral.value? with
  | some value => .ok (reader.put value)
  | none => reader.fail .numberOutOfRange

/-- Takes one byte. A byte after a number is taken for itself. -/
def take (reader : Reader) (byte : UInt8) : Except Fault Reader :=
  let character := Char.ofNat byte.toNat
  let next := { reader with place := reader.place.after byte }
  match reader.mode with
  | .between expected => next.takeBetween expected character
  | .word rest value => next.takeWord rest value character
  | .text isKey reversed escape => next.takeText isKey reversed escape byte
  | .number numeral =>
      match numeral.extend? character with
      | some longer =>
          if longer.isHopeless then next.fail .numberOutOfRange
          else .ok { next with mode := .number longer }
      | none =>
          if !numeral.canEndBefore character then next.fail .badNumber
          else do
            let ended ← reader.endNumber numeral
            match ended.mode with
            | .between expected =>
                let moved := { ended with place := next.place }
                moved.takeBetween expected character
            | _ => pure ended

/-- The document between whose parts reading has ended. -/
def finishBetween (reader : Reader) : Except Fault Tree :=
  match reader.mode with
  | .between (.nothing document) => .ok document
  | .between expected => reader.fail expected.causeAtEnd
  | .word _ _ | .number _ => reader.fail .endInValue
  | .text _ _ _ => reader.fail .endInText

/-- The document that has been read at the end of its text. -/
def finish (reader : Reader) : Except Fault Tree :=
  match reader.mode with
  | .number numeral =>
      if numeral.isComplete then do
        let ended ← reader.endNumber numeral
        ended.finishBetween
      else
        reader.fail .endInValue
  | _ => reader.finishBetween

end Reader

/-- The document of a text. Each of its values is marked with the origin of the text. -/
def read (origin : Option Origin) (text : List Char) : Except Fault Tree := do
  let reader ← (Text.encode text).foldlM Reader.take { origin }
  reader.finish

end AdmissionControl.Json
