import Mathlib.Tactic.SplitIfs
import Storyboard.Code.Phrase
import Storyboard.Code.Refusal
import Storyboard.Session.Engine

/-!
# Procedures

A procedure is what code means that calls the keywords of a session: statements in order, each of
which evaluates what the keyword is given, calls it, and goes on only if the call has not failed.  A
keyword may be given a block, which is a procedure of its own.

`procedure?` reads a procedure off a flat listing, where nothing tells which signs stand directly
behind each other.  The code that stays the same in every procedure is written here as a text
(`phrase`), so that what is read does not depend on how such code is put together.
-/

namespace Storyboard

/-! ## Phrases -/

namespace Code

/-- The token without regard to whether it is joined to the next. -/
def Token.loosened : Token → Token
  | .sign c _ => .sign c false
  | head => head

/-- The code without regard to which signs are joined. -/
def loosened : Code → Code
  | done => done
  | token head rest => token head.loosened rest.loosened
  | group bracket inner rest => group bracket inner.loosened rest.loosened

/-- The code that a text is, with no regard to which signs are joined. -/
def phrase (text : String) : Code := ((read? text).getD done).loosened

/-- What stands behind a phrase that code begins with. -/
def behind : Code → Code → Option Code
  | done, code => some code
  | token head rest, token head' code => if head = head' then rest.behind code else none
  | group bracket inner rest, group bracket' inner' code =>
      if bracket = bracket' ∧ inner = inner' then rest.behind code else none
  | _, _ => none

@[simp] theorem loosened_append (first second : Code) :
    (first ++ second).loosened = first.loosened ++ second.loosened := by
  induction first with
  | done => rfl
  | token head rest ih => simp [loosened, ih]
  | group bracket inner rest _ ih => simp [loosened, ih]

@[simp] theorem behind_append (first second : Code) :
    first.behind (first ++ second) = some second := by
  induction first with
  | done => rfl
  | token head rest ih => simp [behind, ih]
  | group bracket inner rest _ ih => simp [behind, ih]

/-- There is no more code behind a phrase than there is with it. -/
theorem size_behind {first code rest : Code} (h : first.behind code = some rest) :
    rest.size ≤ code.size := by
  induction first generalizing code with
  | done =>
      obtain rfl : code = rest := Option.some.inj h
      exact Nat.le_refl _
  | token head more ih =>
      cases code with
      | done => cases h
      | group => cases h
      | token head' code =>
          simp only [behind] at h
          split at h
          · have hle := ih h
            simp only [size]
            omega
          · cases h
  | group bracket inner more _ ih =>
      cases code with
      | done => cases h
      | token => cases h
      | group bracket' inner' code =>
          simp only [behind] at h
          split at h
          · have hle := ih h
            simp only [size]
            omega
          · cases h

end Code

namespace Markup

open Storyboard.Code

/-! ## What a keyword is given -/

/-- One thing that is added to a set of attributes. -/
inductive Setting where
  | id (contents : String)
  | text (contents : String)
  /-- A style as it is written. -/
  | style (source : String)

/-- What a keyword is given. -/
inductive Given where
  | unit
  | text (contents : String)
  | settings (added : List Setting)

/-- Adds something to a set of attributes, in place of what there was of that kind.  A style has to
be parsed first. -/
def Setting.add (given : Attributes Callback) : Setting → Except Error (Attributes Callback)
  | .id contents => .ok { given with id := some contents }
  | .text contents => .ok { given with text := some contents }
  | .style source =>
      match Style.parse source with
      | .error fault => .error (.style fault)
      | .ok parsed => .ok { given with style := some parsed }

def Given.evaluate : Given → Except Error (Args Callback)
  | .unit => .ok .none
  | .text contents => .ok (.text contents)
  | .settings added => (added.foldlM Setting.add {}).map .attributes

/-! ## Statements -/

/-- What a statement declares. -/
inductive Subject where
  | screen
  | widget (kind : WidgetKind)

/-- A call of a keyword, possibly with a block. -/
inductive Statement where
  | plain (subject : Subject) (given : Given)
  | withBlock (subject : Subject) (given : Given) (body : List Statement)

namespace Subject

def declare : Subject → Args Callback → Act NodeId
  | .screen => Engine.exclusive.screen
  | .widget kind => Engine.exclusive.widget kind

def declareWith : Subject → Args Callback → Act Unit → Act NodeId
  | .screen => Engine.exclusive.screenBlock
  | .widget kind => Engine.exclusive.containerBlock kind

end Subject

mutual

/-- Carries out a statement: what the keyword is given is evaluated first. -/
def Statement.act : Statement → Act Unit
  | .plain subject given => do
      let args ← Act.ofExcept given.evaluate
      let _ ← subject.declare args
  | .withBlock subject given body => do
      let args ← Act.ofExcept given.evaluate
      let _ ← subject.declareWith args (actAll body)

/-- Carries out statements in order.  What fails ends them. -/
def actAll : List Statement → Act Unit
  | [] => pure ()
  | statement :: rest => do
      statement.act
      actAll rest

end

/-! ## Reading statements -/

/-- A call as it is read, with the code of its block. -/
structure Call where
  subject : Subject
  given : Given
  body : Option Code

/-- The call of a method on a set of attributes. -/
def setting? (name : String) (argument : Code) : Option Setting :=
  if name = "with_style" then
    match (phrase "::workstation::Style::parse").behind argument with
    | some (.group .round (.token (.text source) .done) (.token (.sign '?' false) .done)) =>
        some (.style source)
    | _ => none
  else
    match argument with
    | .token (.text contents) .done =>
        if name = "with_id" then some (.id contents)
        else if name = "with_text" then some (.text contents)
        else none
    | _ => none

/-- The calls of methods at the beginning of code, and the code behind them. -/
def settings? : Code → Option (List Setting × Code)
  | .token (.sign '.' false) (.token (.word name) (.group .round argument rest)) => do
      let first ← setting? name argument
      let (more, rest) ← settings? rest
      return (first :: more, rest)
  | rest => some ([], rest)

/-- What a keyword is given at the beginning of code, and the code behind it. -/
def given? : Code → Option (Given × Code)
  | .group .round .done rest => some (.unit, rest)
  | .token (.text contents) rest => some (.text contents, rest)
  | code => do
      let rest ← (phrase "::workstation::Attributes::new()").behind code
      let (added, rest) ← settings? rest
      return (.settings added, rest)

/-- The arguments of a keyword without a block. -/
def plainCall? (subject : Subject) (arguments : Code) : Option Call :=
  match given? arguments with
  | some (given, .done) => some ⟨subject, given, none⟩
  | _ => none

/-- The arguments of a keyword with a block, which is a closure that is given the session. -/
def blockCall? (subject : Subject) (arguments : Code) : Option Call := do
  let (given, rest) ← given? arguments
  match (phrase ", |__ws: &mut ::workstation::Workstation| -> ::workstation::Result<()>").behind
    rest with
  | some (.group .curly body .done) => some ⟨subject, given, some body⟩
  | _ => none

/-- The arguments of a keyword for any kind of widget, of which the first is its name. -/
def namedCall? (call? : Subject → Code → Option Call) : Code → Option Call
  | .token (.text name) (.token (.sign ',' false) rest) => call? (.widget (.ofName name)) rest
  | _ => none

/-- The call of a method of the session. -/
def call? (method : String) (arguments : Code) : Option Call :=
  if method = "screen" then plainCall? .screen arguments
  else if method = "screen_with" then blockCall? .screen arguments
  else if method = "table_with" then blockCall? (.widget .table) arguments
  else if method = "widget" then namedCall? plainCall? arguments
  else if method = "container_with" then namedCall? blockCall? arguments
  else
    match WidgetKind.ofName method with
    | .custom _ => none
    | kind => plainCall? (.widget kind) arguments

/-- The statement at the beginning of code, and the code behind it. -/
def statement? : Code → Option (Call × Code)
  | .token (.word session) (.token (.sign '.' false) (.token (.word method) (.group .round arguments
      (.token (.sign '?' false) (.token (.sign ';' false) rest))))) =>
      if session = "__ws" then (call? method arguments).map (·, rest) else none
  | _ => none

/-! ### A statement is not empty -/

theorem size_settings? {code rest : Code} {added : List Setting}
    (h : settings? code = some (added, rest)) : rest.size ≤ code.size := by
  fun_induction settings? code generalizing added rest with
  | case1 name argument code ih =>
      obtain ⟨first, -, h⟩ := Option.bind_eq_some_iff.mp h
      obtain ⟨⟨more, rest'⟩, hmore, h⟩ := Option.bind_eq_some_iff.mp h
      obtain ⟨-, rfl⟩ := Prod.mk.inj (Option.some.inj h)
      have hle := ih hmore
      simp only [size]
      omega
  | case2 code =>
      obtain ⟨-, rfl⟩ := Prod.mk.inj (Option.some.inj h)
      exact Nat.le_refl _

theorem size_given? {code rest : Code} {given : Given} (h : given? code = some (given, rest)) :
    rest.size ≤ code.size := by
  unfold given? at h
  split at h
  · obtain ⟨-, rfl⟩ := Prod.mk.inj (Option.some.inj h)
    simp [size]
  · obtain ⟨-, rfl⟩ := Prod.mk.inj (Option.some.inj h)
    simp [size]
  · obtain ⟨middle, hmiddle, h⟩ := Option.bind_eq_some_iff.mp h
    obtain ⟨⟨added, rest'⟩, hadded, h⟩ := Option.bind_eq_some_iff.mp h
    obtain ⟨-, rfl⟩ := Prod.mk.inj (Option.some.inj h)
    exact Nat.le_trans (size_settings? hadded) (size_behind hmiddle)

/-- The block of a call is smaller than its arguments. -/
def Call.Within (call : Call) (bound : Nat) : Prop := ∀ body ∈ call.body, body.size < bound

theorem within_plainCall? {subject : Subject} {arguments : Code} {call : Call} {bound : Nat}
    (h : plainCall? subject arguments = some call) : call.Within bound := by
  unfold plainCall? at h
  split at h
  · cases h
    simp [Call.Within]
  · cases h

theorem within_blockCall? {subject : Subject} {arguments : Code} {call : Call}
    (h : blockCall? subject arguments = some call) : call.Within arguments.size := by
  obtain ⟨⟨given, rest⟩, hgiven, h⟩ := Option.bind_eq_some_iff.mp h
  dsimp only at h
  split at h
  · next body hbody =>
      cases h
      have hrest := size_given? hgiven
      have hblock := size_behind hbody
      simp only [size] at hblock
      simp only [Call.Within, Option.mem_some_iff, forall_eq']
      omega
  · cases h

/-- The name of the widget only makes the arguments larger. -/
theorem within_namedCall? {call? : Subject → Code → Option Call} {arguments : Code} {call : Call}
    (hcall : ∀ subject arguments call, call? subject arguments = some call →
      call.Within arguments.size)
    (h : namedCall? call? arguments = some call) : call.Within arguments.size := by
  unfold namedCall? at h
  split at h
  · next rest =>
      intro body hbody
      have hlt := hcall _ _ _ h body hbody
      simp only [size]
      omega
  · cases h

theorem within_call? {method : String} {arguments : Code} {call : Call}
    (h : call? method arguments = some call) : call.Within arguments.size := by
  unfold call? at h
  split_ifs at h
  · exact within_plainCall? h
  · exact within_blockCall? h
  · exact within_blockCall? h
  · exact within_namedCall? (fun _ _ _ => within_plainCall?) h
  · exact within_namedCall? (fun _ _ _ => within_blockCall?) h
  · split at h
    · cases h
    · exact within_plainCall? h

theorem size_statement? {code rest : Code} {call : Call} (h : statement? code = some (call, rest)) :
    rest.size < code.size ∧ call.Within code.size := by
  unfold statement? at h
  split at h
  · split at h
    · obtain ⟨found, hfound, hsame⟩ := Option.map_eq_some_iff.mp h
      obtain ⟨rfl, rfl⟩ := Prod.mk.inj hsame
      have hwithin := within_call? hfound
      refine ⟨by simp only [size]; omega, fun body hbody => ?_⟩
      have hlt := hwithin body hbody
      simp only [size]
      omega
    · cases h
  · cases h

/-- Reads statements that end in success. -/
def statements? (code : Code) : Option (List Statement) :=
  if code = phrase "Ok(())" then some []
  else
    match _h : statement? code with
    | none => none
    | some (⟨subject, given, none⟩, rest) =>
        (statements? rest).map (.plain subject given :: ·)
    | some (⟨subject, given, some body⟩, rest) => do
        let body ← statements? body
        let more ← statements? rest
        return .withBlock subject given body :: more
termination_by code.size
decreasing_by
  · exact (size_statement? _h).1
  · exact (size_statement? _h).2 _ rfl
  · exact (size_statement? _h).1

/-! ## Reading a procedure -/

/-- The closure that is called at the end of code, right behind a statement. -/
def calledLast? : Code → Option Code
  | .token (.sign ';' false) (.group .round closure (.group .round .done .done)) => some closure
  | .token _ rest => calledLast? rest
  | .group _ _ rest => calledLast? rest
  | .done => none

/-- Reads a block that binds the session, to whatever it is, and calls a closure of statements. -/
def procedureOf? : Code → Option (List Statement)
  | .group .curly code .done => do
      let bound ← (phrase "let __ws: &mut ::workstation::Workstation =").behind code
      let closure ← calledLast? bound
      match (phrase "|| -> ::workstation::Result<()>").behind closure with
      | some (.group .curly body .done) => statements? body
      | _ => none
  | _ => none

/-- The procedure that a flat listing is. -/
def procedure? (lexemes : List Lexeme) : Option (List Statement) := do
  let code ← assemble? lexemes
  procedureOf? code.loosened

end Markup

end Storyboard
