import Storyboard.Session.Act

/-!
# Answering questions

How the questions of a script are answered from the world.  Answers name nodes by where they are at
that moment.
-/

namespace Storyboard

open Act

/-- The node that a reference names.  A name that was never given names no node; a name once given
may be that of a node that has left the tree. -/
def World.resolve (world : World) : Reference → Except Error NodeId
  | .named name =>
      match world.journal.names.lookup name with
      | none => .error .unknownNode
      | some id => .ok id
  | .path indices => world.session.tree.follow indices

/-- The node that a reference names now. -/
def Act.resolve (node : Reference) : Act NodeId := do ofExcept ((← get).resolve node)

/-- The view of a node that the tree has just handed out.  Such a node is in the tree. -/
def viewOf (tree : Tree Callback) (id : NodeId) : Act View :=
  match tree.view? id with
  | some seen => pure seen
  | none => throw (.panicked "the node handed out is not in the tree")

/-- Whether the characters contain the given ones in a row. -/
def containsChars (part : List Char) : List Char → Bool
  | [] => part.isEmpty
  | c :: rest => part.isPrefixOf (c :: rest) || containsChars part rest

/-- Whether a text contains another. -/
def containsText (text part : String) : Bool := containsChars part.toList text.toList

/-- What a node below another looks like to one who asks for it. -/
def widgetAnswer (tree : Tree Callback) (id : NodeId) : Act Answer := do
  let seen ← viewOf tree id
  return .widget seen ((tree.parent? id).map tree.locate) seen.node.handle.read

/-- The answer to a question. -/
def Query.answer (query : Query) : Act Answer := do
  let session ← session
  let tree := session.tree
  match query with
  | .config => return .config session.config
  | .resolve selector =>
      let found ← ofExcept (tree.select selector)
      return .selection selector.describe (found.map tree.locate)
  | .records tag => return .records ((← get).journal.records.lookup tag)
  | .screenAt index =>
      let id ← ofExcept (tree.screenAt index)
      return .screen (← viewOf tree id)
  | .widgetAt above index =>
      let id ← ofExcept (tree.widgetAt (← Act.resolve above) index)
      widgetAnswer tree id
  | .widgetOnScreen screen index =>
      let above ← ofExcept (tree.screenAt screen)
      let id ← ofExcept (tree.widgetAt above index)
      return .view (some (← viewOf tree id))
  | .lastScreen => return .view (← tree.lastScreen?.mapM (viewOf tree))
  | .screenWithTitle title => return .view (← (tree.screenWithTitle? title).mapM (viewOf tree))
  | .screenNamed target =>
      let id ← Act.resolve target
      return .view (← (tree.asScreen? id).mapM (viewOf tree))
  | .titles => return .texts tree.titles
  | .node target => return .node (tree.get? (← Act.resolve target))
  | .contains target => return .flag (tree.contains (← Act.resolve target))
  | .parent target => return .location ((tree.parent? (← Act.resolve target)).map tree.locate)
  | .children target => return .locations ((tree.childrenOf (← Act.resolve target)).map tree.locate)
  | .outlineFrom target => return .text (tree.outlineFrom (← Act.resolve target))
  | .walk => return .locations (tree.walk.map tree.locate)
  | .walkFrom target => return .locations ((tree.walkFrom (← Act.resolve target)).map tree.locate)
  | .withId id => return .location ((tree.queryId? id).map tree.locate)
  | .withType typeName => return .locations ((tree.queryType typeName).map tree.locate)
  | .withText part =>
      return .locations ((tree.query fun node => containsText node.text part).map tree.locate)
  | .withProperty property =>
      return .locations
        ((tree.query fun node => (node.style.get? property).isSome).map tree.locate)

end Storyboard
