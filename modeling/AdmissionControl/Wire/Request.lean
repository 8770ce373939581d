import AdmissionControl.Binary64.Arithmetic
import AdmissionControl.Wire.Fields

/-!
# Request lines

A request is one line: a command word, then fields in any order. A field that is absent takes its
default; a field that is present but malformed makes the whole line invalid.
-/

namespace AdmissionControl.Wire

open Text

/-- Who asks for admission. -/
inductive Visitor where
  | anonymous
  | authenticated
deriving DecidableEq, Repr

/-- The word for a visitor kind. -/
def Visitor.write : Visitor → List Char
  | .anonymous => "anon".toList
  | .authenticated => "user".toList

/-- Reads the word for a visitor kind. -/
def Visitor.read (kind : List Char) : Except Fault Visitor :=
  if kind = "anon".toList then .ok .anonymous
  else if kind = "user".toList then .ok .authenticated
  else .error (.unknownKind kind)

/-- What a client asks of the daemon. -/
inductive Request where
  | admission (visitor : Visitor)
  | complete (latency : Binary64) (status : Option UInt16) (sampled : Bool)
  | stats
deriving DecidableEq

namespace Request

/-- Reads an admission request from its fields. -/
def readAdmit (fields : Fields) : Except Fault Request :=
  match fields.get? "kind" with
  | none => .ok (.admission .anonymous)
  | some kind => (Visitor.read kind).map .admission

/-- Reads a latency: a finite number that is not negative. -/
def readLatency (fields : Fields) : Except Fault Binary64 :=
  match fields.read? "rtt_ms" Binary64.read? with
  | .error fault => .error fault
  | .ok given =>
      let latency := given.getD .zero
      if latency.isFinite && !latency.lessThan .zero then .ok latency
      else .error (.unusableLatency latency)

/-- Reads a completion from its fields: first the latency, then the status, then the flag. -/
def readComplete (fields : Fields) : Except Fault Request := do
  let latency ← readLatency fields
  let status ← fields.read? "status" readUInt16?
  let sampled ← fields.read? "sample" readFlag?
  pure (.complete latency status (sampled.getD true))

/-- Reads a request line, with or without its terminator. -/
def parse (line : List Char) : Except Fault Request :=
  let words := tokens line
  let command := words.headD []
  let fields := Fields.ofTokens words.tail
  if command = "ADMIT".toList then readAdmit fields
  else if command = "COMPLETE".toList then readComplete fields
  else if command = "STATS".toList then .ok .stats
  else .error (.unknownCommand command)

/-- The greatest latency that a request line can carry. -/
def greatestLatency : Nat := UInt64.size - 1

/-- A request as a line with its terminator. A latency is written as the nearest whole number in
the range of 64-bit words. -/
def encode : Request → List Char
  | .admission visitor => "ADMIT kind=".toList ++ visitor.write ++ ['\n']
  | .complete latency status sampled =>
      "COMPLETE rtt_ms=".toList ++ Numeral.write (latency.roundWithin greatestLatency)
        ++ (match status with
          | some code => " status=".toList ++ Numeral.write code.toNat
          | none => [])
        ++ (if sampled then [] else " sample=0".toList)
        ++ ['\n']
  | .stats => "STATS\n".toList

end Request

end AdmissionControl.Wire
