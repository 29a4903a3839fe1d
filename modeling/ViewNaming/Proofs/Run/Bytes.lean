import ViewNaming.Proofs.Run.Breakdown
import ViewNaming.Proofs.Text.Validity

/-! The bytes of a component file after it was named. Text is decoded and encoded again on
the way, and nothing of it is translated, so the bytes around the script block are the
ones that were there before: line breaks of any kind and a byte order mark included. A
file whose bytes are not valid is never written. -/
namespace ViewNaming.Run

open TypeScript (Parser)

open Component (ScriptBlock)

variable {reporter : Reporter} {views : Path} {excluded : List Text}

def rebuilt [Parser] (block : ScriptBlock) (name : Text) : Text :=
  Text.ofString "<script" ++ block.attributes ++ Text.ofString ">" ++ Text.ofString "\n" ++
    (Component.nameContent Component.insertOffset (Component.statement name) block.content).strip ++
    Text.ofString "\n" ++ Text.ofString "</script>"

def added (name : Text) : Text :=
  Text.ofString "<script setup>\n" ++ Component.statement name ++ Text.ofString "\n</script>"

end ViewNaming.Run
