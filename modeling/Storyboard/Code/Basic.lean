import Storyboard.Code.Token

/-!
# Code

Code is a sequence of tokens and of bracketed code.  It is kept with its brackets matched: `group`
holds what stands between a bracket and its partner, and what follows.  `lexemes` lists code flat
again, and `assemble?` finds the partners in a flat list.
-/

namespace Storyboard

/-- A sequence of tokens and bracketed code. -/
inductive Code where
  | done
  | token (head : Code.Token) (rest : Code)
  | group (bracket : Code.Bracket) (inner rest : Code)
  deriving DecidableEq, Repr, Inhabited

namespace Code

def size : Code → Nat
  | done => 0
  | token _ rest => rest.size + 1
  | group _ inner rest => inner.size + rest.size + 1

def isDone : Code → Bool
  | done => true
  | _ => false

theorem isDone_iff {code : Code} : code.isDone = true ↔ code = done := by
  cases code <;> simp [isDone]

/-- One sequence after another. -/
def append : Code → Code → Code
  | done, second => second
  | token head rest, second => token head (rest.append second)
  | group bracket inner rest, second => group bracket inner (rest.append second)

instance : Append Code := ⟨append⟩

@[simp] theorem done_append (code : Code) : done ++ code = code := rfl

@[simp] theorem token_append (head : Token) (rest code : Code) :
    token head rest ++ code = token head (rest ++ code) := rfl

@[simp] theorem group_append (bracket : Bracket) (inner rest code : Code) :
    group bracket inner rest ++ code = group bracket inner (rest ++ code) := rfl

@[simp] theorem append_done (code : Code) : code ++ done = code := by
  induction code with
  | done => rfl
  | token head rest ih => simp [ih]
  | group bracket inner rest _ ih => simp [ih]

theorem append_assoc (first second third : Code) :
    first ++ second ++ third = first ++ (second ++ third) := by
  induction first with
  | done => rfl
  | token head rest ih => simp [ih]
  | group bracket inner rest _ ih => simp [ih]

/-! ## Flat listings -/

/-- The lexemes of code in order. -/
def lexemes : Code → List Lexeme
  | done => []
  | token head rest => .token head :: rest.lexemes
  | group bracket inner rest =>
      .opening bracket :: (inner.lexemes ++ .closing bracket :: rest.lexemes)

/-- What has been found behind a place in a flat list: the code up to the next bracket that closes
there, and for each such bracket, the innermost first, the code behind it. -/
structure Behind where
  code : Code
  closed : List (Bracket × Code)

/-- What is found behind a place, given what is found behind the lexeme that stands there. -/
def Behind.extend? (behind : Behind) : Lexeme → Option Behind
  | .token head => some { behind with code := token head behind.code }
  | .closing bracket => some { code := done, closed := (bracket, behind.code) :: behind.closed }
  | .opening bracket =>
      match behind.closed with
      | [] => none
      | (partner, rest) :: closed =>
          if partner = bracket then
            some { code := group bracket behind.code rest, closed := closed }
          else none

/-- What is found behind the beginning of a flat list. -/
def behind? : List Lexeme → Option Behind
  | [] => some { code := done, closed := [] }
  | lexeme :: rest => (behind? rest).bind (·.extend? lexeme)

/-- The code that a flat list is a listing of, if all its brackets have partners. -/
def assemble? (lexemes : List Lexeme) : Option Code :=
  match behind? lexemes with
  | some ⟨code, []⟩ => some code
  | _ => none

theorem behind?_lexemes_append (code : Code) (rest : List Lexeme) :
    behind? (code.lexemes ++ rest)
      = (behind? rest).map fun behind => { behind with code := code ++ behind.code } := by
  induction code generalizing rest with
  | done => simp [lexemes]
  | token head tail ih =>
      simp only [lexemes, List.cons_append, behind?, ih]
      cases behind? rest <;> rfl
  | group bracket inner tail ihInner ihTail =>
      simp only [lexemes, List.cons_append, List.append_assoc, behind?, ihInner, ihTail]
      cases behind? rest <;> simp [Behind.extend?]

/-- A flat listing assembles to the code that it lists. -/
theorem assemble?_lexemes (code : Code) : assemble? code.lexemes = some code := by
  have h := behind?_lexemes_append code []
  simp only [List.append_nil] at h
  simp [assemble?, h, behind?]

/-- The lexemes from which something has been found are those of the code up to the next bracket
that closes there, followed by each such bracket with those of the code behind it. -/
theorem lexemes_of_behind? {lexemes : List Lexeme} {behind : Behind}
    (h : behind? lexemes = some behind) :
    lexemes = behind.code.lexemes ++
      behind.closed.flatMap fun closed => .closing closed.1 :: closed.2.lexemes := by
  induction lexemes generalizing behind with
  | nil =>
      cases h
      rfl
  | cons lexeme rest ih =>
      obtain ⟨later, hlater, hextend⟩ := Option.bind_eq_some_iff.mp h
      rw [ih hlater]
      cases lexeme with
      | token head =>
          cases hextend
          rfl
      | closing bracket =>
          cases hextend
          rfl
      | opening bracket =>
          unfold Behind.extend? at hextend
          simp only at hextend
          split at hextend
          · cases hextend
          · rename_i partner tail closed hclosed
            simp only [Option.ite_none_right_eq_some, Option.some.injEq] at hextend
            obtain ⟨rfl, rfl⟩ := hextend
            simp [hclosed, Code.lexemes]

/-- What assembles to code is its flat listing. -/
theorem lexemes_of_assemble? {lexemes : List Lexeme} {code : Code}
    (h : assemble? lexemes = some code) : code.lexemes = lexemes := by
  unfold assemble? at h
  split at h
  · rename_i hbehind
    cases h
    rw [lexemes_of_behind? hbehind]
    simp
  · cases h

end Code

end Storyboard
