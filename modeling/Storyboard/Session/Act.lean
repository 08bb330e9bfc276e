import Storyboard.Script.Answer

/-!
# Acts

An act changes the world of a running script and ends in one of three ways besides giving a value:
it fails with an error, it panics, or it has nested too deeply to be followed.  An act that does not
end well has still done what it did until then.
-/

namespace Storyboard

/-- How an act ends if it does not give a value. -/
inductive Halt where
  | failed (error : Error)
  | panicked (message : String)
  /-- The depth to which acts are followed is used up. -/
  | exhausted

/-- What a running script has written down. -/
structure Journal where
  /-- The nodes that have been given a name, the latest first. -/
  names : List (String × NodeId) := []
  /-- What each recording presenter has kept, in order. -/
  records : List (String × List PresentationRecord) := []
  /-- What has happened since the last entry, the latest first. -/
  events : List String := []
  entries : List Entry := []
  /-- Whether entries leave out the session after the step. -/
  isQuiet : Bool := false

/-- The session of a running script and its journal. -/
structure World where
  session : Session
  journal : Journal

/-- A computation that changes the world. -/
abbrev Act := ExceptT Halt (StateM World)

namespace Act

variable {α : Type}

/-- Fails with an error. -/
def fail (error : Error) : Act α := throw (.failed error)

/-- Gives a value or fails. -/
def ofExcept : Except Error α → Act α
  | .ok value => pure value
  | .error error => fail error

/-- Runs an act and gives how it ended. -/
def attempt (act : Act α) : Act (Except Halt α) := ExceptT.mk (Except.ok <$> act.run)

/-- The session as it is. -/
def session : Act Session := do return (← get).session

/-- Changes the session. -/
def changeSession (change : Session → Session) : Act Unit :=
  modify fun world => { world with session := change world.session }

def changeTree (change : Tree Callback → Tree Callback) : Act Unit :=
  changeSession fun session => { session with tree := change session.tree }

/-- Grows the tree by a node, or fails and leaves it as it is. -/
def growTree (grow : Tree Callback → Except Error (NodeId × Tree Callback)) : Act NodeId := do
  let (id, grown) ← ofExcept (grow (← session).tree)
  changeTree fun _ => grown
  return id

/-- Changes the journal. -/
def changeJournal (change : Journal → Journal) : Act Unit :=
  modify fun world => { world with journal := change world.journal }

def emit (event : String) : Act Unit :=
  changeJournal fun journal => { journal with events := event :: journal.events }

end Act

/-- The journal with an entry about a step, which takes with it all that has happened since the last
one. -/
def Journal.record (journal : Journal) (place : Place) (name : String) (answer : Answer)
    (session : Session) : Journal :=
  { journal with
    events := []
    entries :=
      { place := place
        name := name
        answer := answer
        events := journal.events.reverse
        glimpse := if journal.isQuiet then none else some session.glimpse } :: journal.entries }

end Storyboard
