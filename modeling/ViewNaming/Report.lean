import ViewNaming.Text.Utf8

/-! Messages for whoever runs the program, and how a console shows them. -/
namespace ViewNaming

inductive Level
  | info
  | warn
  | error
deriving DecidableEq

def Level.name : Level → String
  | info => "info"
  | warn => "warn"
  | error => "error"

structure Message where
  level : Level
  text : Text
deriving DecidableEq

namespace Message

def textsAt (level : Text) (messages : List Message) : List Text :=
  (messages.filter fun message => Text.ofString message.level.name = level).map Message.text

end Message

/-- The rest of a colour code behind its opening bracket: parameters and then a
letter. -/
def colourEnd? (text : Text) : Option Text :=
  match text.dropWhile fun (c : CodePoint) => c = ';' || c = '?' || c.isDigit with
  | [] => none
  | c :: rest =>
      if (0x41 ≤ c.toNat && c.toNat ≤ 0x5A) || (0x61 ≤ c.toNat && c.toNat ≤ 0x7A) then some rest
      else none

def afterColour? (text : Text) : Option Text :=
  (Text.after? (Text.ofString "\x1b[") text).bind colourEnd?

/-- Drops the colour codes. Every round takes at least one code point, so the
text itself bounds the rounds. -/
def plainWithin : (bound text : Text) → Text
  | [], _ => []
  | _, [] => []
  | _ :: bound, c :: text =>
      match afterColour? (c :: text) with
      | some rest => plainWithin bound rest
      | none => c :: plainWithin bound text

def plain (text : Text) : Text := plainWithin text text

structure Console where
  out : Text
  err : Text
deriving DecidableEq

namespace Console

def line (message : Message) : Text := plain message.text ++ Text.ofString "\n"

/-- Surrogates have no encoded form. The stream for warnings spells them out. -/
def spelled (c : CodePoint) : Text := if c.isSurrogate then c.escape else [c]

def print (console : Console) (message : Message) : Console :=
  match message.level with
  | .info => { console with out := console.out ++ line message }
  | _ => { console with err := console.err ++ (line message).flatMap spelled }

/-- Why the console refuses a message: the stream for information takes only
what can be encoded. -/
def refusal? (message : Message) : Option Utf8.EncodeError :=
  match message.level with
  | .info =>
      match Utf8.encode (line message) with
      | .ok _ => none
      | .error e => some e
  | _ => none

def ofMessages (messages : List Message) : Console := messages.foldl Console.print ⟨[], []⟩

end Console

end ViewNaming
