import CalcBench.Device
import CalcBench.Expression.Evaluation

/-!
# CalcBench.Device.Model — a software model of the core

The core takes an expression one byte at a time; a byte above ASCII is kept as the Latin-1 character of
that number, which the evaluator rejects.  The model answers every expression with the golden response
at its own register width.  A response is due once the last byte is the end mark, and clears the buffer.
-/

namespace CalcBench.Expression

/-- The expression received so far. -/
structure Buffer where
  text : String := ""
  deriving DecidableEq

namespace Buffer

def push (b : Buffer) (byte : UInt8) : Buffer := ⟨b.text.push (Char.ofUInt8 byte)⟩

def extend (b : Buffer) (bytes : List UInt8) : Buffer := bytes.foldl push b

def isEmpty (b : Buffer) : Bool := b.text.toList.isEmpty

/-- The end mark `=` is the last character received. -/
def isComplete (b : Buffer) : Bool := b.text.toList.getLast? == some '='

/-- The text received, and the buffer to go on with. -/
def take (b : Buffer) : String × Buffer := (b.text, {})

def evaluate (b : Buffer) : Except Fault Int64 := Expression.evaluate b.text

end Buffer

end CalcBench.Expression

namespace CalcBench

structure Model where
  width : Width
  buffer : Expression.Buffer := {}
  deriving DecidableEq

namespace Model

def put (m : Model) (byte : UInt8) : Exchange DeviceError Model Unit :=
  .done () { m with buffer := m.buffer.push byte }

def get (m : Model) : Exchange DeviceError Model Response :=
  if m.buffer.isComplete then
    let response := Response.golden m.buffer.evaluate m.width
    ⟨.ok response, { m with buffer := {} },
      (Expression.appliedFolds m.buffer.text).map .fold
        ++ [.modelResponse m.buffer.text response]⟩
  else ⟨.error (.early m.buffer.text), m, []⟩

def device : Device DeviceError Model := ⟨put, get⟩

end Model

end CalcBench
