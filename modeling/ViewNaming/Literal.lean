import ViewNaming.Text.Quoted
import ViewNaming.Tree.Node

/-! The values of quoted texts. A quoted text is a row of fragments, which stand
for themselves, and escapes. Halves of surrogate pairs are not joined. -/
namespace ViewNaming.Literal

/-- Why a node has no value: it is no quoted text, or it holds an escape whose
number is no code point, or not even a machine integer. -/
inductive Error
  | notLiteral (kind : Kind)
  | outOfRange
  | overflow
deriving DecidableEq

def Error.message : Error → Text
  | notLiteral kind =>
      Text.ofString "Expected a string literal, got " ++ (Text.ofString kind.name).quoted
  | outOfRange => Text.ofString "chr() arg not in range(0x110000)"
  | overflow => Text.ofString "Python int too large to convert to C int"

def simple? (c : CodePoint) : Option CodePoint :=
  if c = 'n' then some (CodePoint.ofChar '\n')
  else if c = 't' then some (CodePoint.ofChar '\t')
  else if c = 'r' then some (CodePoint.ofChar '\r')
  else if c = 'b' then some (CodePoint.ofChar '\x08')
  else if c = 'f' then some (CodePoint.ofChar '\x0c')
  else if c = 'v' then some (CodePoint.ofChar '\x0b')
  else if c = '0' then some (CodePoint.ofChar '\x00')
  else none

def hexNumber? (digits : Text) : Option Nat :=
  digits.foldl
    (fun number digit => number.bind fun n => digit.hexValue?.map fun value => n * 16 + value)
    (some 0)

/-- The number of a hexadecimal escape without its backslash: two digits behind
`x`, four behind `u`, or any number of them in braces behind `u`. -/
def hexEscape? (body : Text) : Option Nat :=
  match body with
  | [] => none
  | mark :: digits =>
      if mark = 'x' && digits.length = 2 then hexNumber? digits
      else if mark = 'u' && digits.length = 4 && digits.all CodePoint.isHexDigit then
        hexNumber? digits
      else if mark = 'u' then
        match digits with
        | [] => none
        | opening :: digits =>
            match digits.reverse with
            | [] => none
            | closing :: inner =>
                if opening = '\x7b' && closing = '\x7d' && !inner.isEmpty then
                  hexNumber? inner.reverse
                else none
      else none

def ofNumber (n : Nat) : Except Error Text :=
  match CodePoint.ofNat? n with
  | some c => .ok [c]
  | none => .error (if n ≤ 0x7FFFFFFF then .outOfRange else .overflow)

/-- What an escape stands for. A backslash before a line break stands for
nothing, and before anything without a meaning of its own for what follows. -/
def decodeEscape (escape : Text) : Except Error Text :=
  let body := escape.drop 1
  match body with
  | [] => .ok []
  | c :: others =>
      if c = '\n' || c = '\r' then .ok []
      else
        match others, simple? c with
        | [], some value => .ok [value]
        | _, _ =>
            match hexEscape? body with
            | some n => ofNumber n
            | none => .ok body

def decodePart (part : Node) : Except Error Text :=
  if part.is .stringFragment then .ok part.text
  else if part.is .escapeSequence then decodeEscape part.text
  else .ok []

def decodeParts : List Node → Except Error Text
  | [] => .ok []
  | part :: parts =>
      match decodePart part with
      | .error e => .error e
      | .ok front => (decodeParts parts).map (front ++ ·)

/-- The value of a quoted text. A token of that name has no parts, and its value is empty. -/
def value (node : Node) : Except Error Text :=
  if node.namedLike .string then decodeParts node.namedChildren
  else .error (.notLiteral node.kind)

theorem value_of_is {node : Node} (isString : node.is .string = true) :
    value node = decodeParts node.namedChildren := by
  rw [value, if_pos (Node.namedLike_of_is isString)]

end ViewNaming.Literal
