import ViewNaming.Proofs.Run.Messages

/-! Which components carry their name once they have been named. A script that holds the
marker as a word and no call is left as it is: a mention of the marker in a comment is
enough, or a call whose arguments hold a closing brace of their own. Such a component is
reported like any other. -/
namespace ViewNaming.Component

open TypeScript (Parser)

end ViewNaming.Component

namespace ViewNaming.Run

open TypeScript (Parser)

open Component (Call ScriptBlock closingTag hasMarker lineFeed patch statement)

end ViewNaming.Run
