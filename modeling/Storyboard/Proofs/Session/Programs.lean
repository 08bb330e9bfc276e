import Storyboard.Proofs.Session.Acts

/-!
# Programs

A program is an act together with the calls it makes in each world.  Blocks are programs, and so are
the keywords that take them (`Program.keyword`); sequencing and catching lead from programs to
programs, and what comes next may depend on what has come out so far (`Program.bind`).
-/

namespace Storyboard

variable {α β : Type}

/-- An act that works on the session by calls alone. -/
structure Program (α : Type) where
  act : Act α
  /-- The calls that are made in a world, in order. -/
  calls : World → List Call
  runs : ∀ world, Runs world.session (calls world) (act.exec world).2.session

namespace Program

/-- An act that leaves the session alone. -/
def quiet (act : Act α) (h : ∀ world, (act.exec world).2.session = world.session) : Program α where
  act := act
  calls _ := []
  runs world := by
    rw [h world]
    exact .done world.session

/-- Fails with an error. -/
def fail (error : Error) : Program α := quiet (Act.fail error) fun _ => rfl

/-- Goes on with what comes out of a program. -/
def bind (first : Program α) (next : α → Program β) : Program β where
  act := first.act >>= fun value => (next value).act
  calls world :=
    match first.act.exec world with
    | (.ok value, after) => first.calls world ++ (next value).calls after
    | (.error _, _) => first.calls world
  runs world := by
    have hfirst := first.runs world
    rw [Act.exec_bind]
    generalize first.act.exec world = outcome at hfirst
    obtain ⟨result, after⟩ := outcome
    cases result with
    | ok value => exact hfirst.append ((next value).runs after)
    | error halt => exact hfirst

/-- Goes on whatever becomes of a program. -/
def attempt (program : Program α) : Program (Except Halt α) where
  act := Act.attempt program.act
  calls := program.calls
  runs := program.runs

end Program

/-- A keyword with its arguments and, if it takes one, its block. -/
inductive Keyword where
  | screen (args : Args Callback)
  | widget (kind : WidgetKind) (args : Args Callback)
  | screenBlock (args : Args Callback) (body : Program Unit)
  | containerBlock (kind : WidgetKind) (args : Args Callback) (body : Program Unit)

namespace Keyword

/-- The act of a keyword in one of the two forms. -/
def act (mode : Mode) : Keyword → Act NodeId
  | .screen args => mode.engine.screen args
  | .widget kind args => mode.engine.widget kind args
  | .screenBlock args body => mode.engine.screenBlock args body.act
  | .containerBlock kind args body => mode.engine.containerBlock kind args body.act

/-- The calls of a block, if it was opened. -/
def blockCalls (call : NodeId → Call) (body : Program Unit) :
    Except Halt OpenBlock × World → List Call
  | (.ok block, inside) =>
      call block.node :: body.calls inside ++ [.closed (.of (body.act.exec inside).1)]
  | (.error _, _) => []

/-- The call of a node that was declared. -/
def declarationCalls (call : NodeId → Call) : Except Error (NodeId × Tree Callback) → List Call
  | .ok (id, _) => [call id]
  | .error _ => []

/-- The calls that a keyword makes, itself included if it gets as far as a declaration. -/
def calls (world : World) : Keyword → List Call
  | .screen args => declarationCalls .screen (world.session.tree.addScreen args)
  | .widget kind args =>
      declarationCalls .widget
        (world.session.tree.appendWidget kind args world.session.config.strictRows)
  | .screenBlock args body => blockCalls .screenOpened body ((openScreen args).exec world)
  | .containerBlock kind args body =>
      blockCalls .containerOpened body ((openContainer kind args).exec world)

end Keyword

/-! ## What openings do -/

/-- An opening fails and does nothing, or it opens a block. -/
def OpensOrFails (call : NodeId → Call) (world : World) :
    Except Halt OpenBlock × World → Prop
  | (.ok block, inside) => Opens world.session (call block.node) block inside.session
  | (.error _, after) => after = world

theorem opens_openScreen (args : Args Callback) (world : World) :
    OpensOrFails .screenOpened world ((openScreen args).exec world) := by
  rw [Act.exec_openScreen]
  cases hadded : world.session.tree.addScreen args with
  | ok added => exact .screen hadded
  | error error => rfl

theorem opens_openContainer (kind : WidgetKind) (args : Args Callback) (world : World) :
    OpensOrFails .containerOpened world ((openContainer kind args).exec world) := by
  rw [Act.exec_openContainer]
  cases hadded : world.session.tree.appendWidget kind args world.session.config.strictRows with
  | ok added =>
      have hopens := Opens.container hadded
      obtain ⟨parent, -, -, hgrown⟩ := Tree.appendWidget_eq_ok hadded
      -- the scope is taken after the declaration, which leaves the context alone
      have hcontext : added.2.context = world.session.tree.context := by
        rw [hgrown]
        rfl
      dsimp only [OpensOrFails]
      rw [hcontext]
      exact hopens
  | error error => rfl

/-- A block is carried out between its opening and its closing. -/
theorem runs_withBlock {opening : Act OpenBlock} {call : NodeId → Call} {world : World}
    (hopening : OpensOrFails call world (opening.exec world)) (body : Program Unit) :
    Runs world.session (Keyword.blockCalls call body (opening.exec world))
      ((withBlock opening body.act).exec world).2.session := by
  rw [Act.exec_withBlock]
  generalize opening.exec world = outcome at hopening
  obtain ⟨opened, inside⟩ := outcome
  cases opened with
  | error halt =>
      obtain rfl : inside = world := hopening
      exact .done _
  | ok block => exact .block hopening (body.runs inside) (.done _)

/-- A keyword is a program. -/
def Program.keyword (mode : Mode) (keyword : Keyword) : Program NodeId where
  act := keyword.act mode
  calls world := keyword.calls world
  runs world := by
    cases keyword with
    | screen args =>
        simp only [Keyword.act, Keyword.calls]
        rw [Act.exec_screen]
        cases hadded : world.session.tree.addScreen args with
        | ok added => exact .single (.screen hadded)
        | error error => exact .done _
    | widget kind args =>
        simp only [Keyword.act, Keyword.calls]
        rw [Act.exec_widget]
        cases hadded :
            world.session.tree.appendWidget kind args world.session.config.strictRows with
        | ok added => exact .single (.widget hadded)
        | error error => exact .done _
    | screenBlock args body =>
        simp only [Keyword.act, Keyword.calls]
        rw [Act.exec_screenBlock]
        exact runs_withBlock (opens_openScreen args world) body
    | containerBlock kind args body =>
        simp only [Keyword.act, Keyword.calls]
        rw [Act.exec_containerBlock]
        exact runs_withBlock (opens_openContainer kind args world) body

end Storyboard
