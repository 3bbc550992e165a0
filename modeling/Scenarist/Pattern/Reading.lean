import Scenarist.Pattern.Basic
import Scenarist.Pattern.Node
import Scenarist.Pattern.Token

/-! # Reading patterns

A pattern is read once and then searched for in texts. Its groups are numbered
in the order of their opening brackets. -/

namespace Scenarist.Pattern

/-! A group that is being read: the finished alternatives and the parts of the
current one, both with the latest first. -/

structure Frame where
  group : Option Nat := none
  alternatives : List Node := []
  parts : List Node := []

namespace Frame

def sequence : List Node → Node
  | [] => .empty
  | [node] => node
  | node :: rest => .seq node (sequence rest)

def choice : List Node → Node
  | [] => .empty
  | [node] => node
  | node :: rest => .alternative node (choice rest)

def current (frame : Frame) : Node :=
  sequence frame.parts.reverse

def node (frame : Frame) : Node :=
  let whole := choice (frame.current :: frame.alternatives).reverse
  match frame.group with
  | none => whole
  | some group => .capture group whole

def push (frame : Frame) (node : Node) : Frame :=
  { frame with parts := node :: frame.parts }

def bar (frame : Frame) : Frame :=
  { frame with alternatives := frame.current :: frame.alternatives, parts := [] }

/-! A repetition applies to the part right before it, which must exist. -/

def applyRepetition (least : Nat) (most : Option Nat) (greedy : Bool) (frame : Frame) :
    Option Frame :=
  match frame.parts with
  | [] => none
  | node :: rest =>
    some { frame with parts := .repetition node least most greedy :: rest }

end Frame

structure Reading where
  frame : Frame := {}
  outer : List Frame := []
  groups : Nat := 0
  names : List Text := []

namespace Reading

def openGroup (captures : Bool) (name : Option Text) (reading : Reading) : Option Reading :=
  let names := name.toList
  if names.any reading.names.contains then
    none
  else
    let groups := if captures then reading.groups + 1 else reading.groups
    some
      { frame := { group := if captures then some groups else none }
        outer := reading.frame :: reading.outer
        groups
        names := names ++ reading.names }

def closeGroup (reading : Reading) : Option Reading :=
  match reading.outer with
  | [] => none
  | frame :: outer =>
    some { reading with frame := frame.push reading.frame.node, outer }

def push (reading : Reading) (node : Node) : Reading :=
  { reading with frame := reading.frame.push node }

def read (reading : Reading) : Token → Option Reading
  | .atom set => some (reading.push (.atom set))
  | .start => some (reading.push .start)
  | .finish => some (reading.push .finish)
  | .opening captures name => reading.openGroup captures name
  | .closing => reading.closeGroup
  | .bar => some { reading with frame := reading.frame.bar }
  | .repetition least most greedy =>
    (reading.frame.applyRepetition least most greedy).map fun frame =>
      { reading with frame }

def finish (reading : Reading) : Option Node :=
  if reading.outer.isEmpty then some reading.frame.node else none

end Reading

def Node.ofText (text : Text) : Option Node := do
  let tokens ← Token.ofText text
  let reading ← tokens.foldlM Reading.read {}
  reading.finish

/-! A node makes a pattern. Of the leftmost match, only the first group counts. -/

def Node.firstGroup (node : Node) (text : Text) : Option Text :=
  node.search true text >>= fun state => state.groups.lookup 1

def Node.pattern (text : Text) (node : Node) : Pattern where
  text := text
  firstGroup := node.firstGroup

/-- Reads the text of a pattern. -/
def ofText (text : Text) : Option Pattern :=
  (Node.ofText text).map (Node.pattern text)

instance (priority := low) reader : Compiler where
  compile := ofText
  complaint := "<regex error>"

end Scenarist.Pattern
