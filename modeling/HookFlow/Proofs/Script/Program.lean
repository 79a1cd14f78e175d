import HookFlow.Proofs.Script.Lexer
/-!
Source text as a program, and what a program does.

The statements are those that a gate needs: constants that hold a function of one parameter, `if`, `switch` with
labels, and `return` of a truth value. They are read by a machine with a stack of the blocks that are open, one
token at a time, and run by a function that follows their structure. A `switch` is entered at the first label that
is strictly equal to its subject and runs from there to its end, over all later labels; if no label is, or if
nothing in it returns, the statement behind it is next.

Results:
- `readFrom?_append`: two parts in sequence are read one after the other.
- `Reads.append`, `Reads.flatMap`: so are the statements that they hold.
-/

namespace HookFlow.Script

/-! ## Values and expressions -/

/-- what an expression stands for; of objects only the members count -/
inductive Value where
  | undefined
  | bool (b : Bool)
  | text (s : String)
  | object (members : List (String × Value))

/-- the names that an expression may use, with their values -/
abbrev Scope := List (String × Value)

inductive Expr where
  | name (n : String)
  | member (e : Expr) (key : String)
  /-- strict comparison with a string literal -/
  | same (e : Expr) (literal : String)
  deriving DecidableEq, Repr

/-- strict equality with a string -/
def Value.isText (literal : String) : Value → Bool
  | .text s => s == literal
  | _ => false

/-- whether a value counts as true -/
def Value.isTruthy : Value → Bool
  | .undefined => false
  | .bool b => b
  | .text s => s ≠ ""
  | .object _ => true

/-- the value of an expression; `none` if it throws -/
def Expr.eval (scope : Scope) : Expr → Option Value
  | .name n => scope.lookup n
  | .member e key =>
    match e.eval scope with
    | some (.object members) => some ((members.lookup key).getD .undefined)
    | _ => none
  | .same e literal => (e.eval scope).map fun v => .bool (v.isText literal)

/-! ## Statements -/

inductive Stmt where
  | giveBack (b : Bool)
  | branch (condition : Expr) (body : List Stmt)
  | choice (subject : Expr) (body : List Stmt)
  /-- a label of a `switch` -/
  | label (literal : String)
  /-- a constant that holds a function of one parameter -/
  | define (name parameter : String) (body : List Stmt)

/-- how a statement ends -/
inductive Outcome where
  /-- the statement behind it is next -/
  | next
  | returned (b : Bool)
  | thrown
  deriving DecidableEq, Repr

/-- what comes of one statement before the rest of a block -/
def Outcome.andThen : Outcome → Outcome → Outcome
  | .next, rest => rest
  | first, _ => first

mutual

/-- how a statement ends -/
def Stmt.run (scope : Scope) : Stmt → Outcome
  | .giveBack b => .returned b
  | .branch condition body =>
    match condition.eval scope with
    | some v => if v.isTruthy then runAll scope body else .next
    | none => .thrown
  | .choice subject body =>
    match subject.eval scope with
    | some v => runFrom scope v body
    | none => .thrown
  | .label _ => .next
  | .define _ _ _ => .next

/-- how the statements of a block end -/
def runAll (scope : Scope) : List Stmt → Outcome
  | [] => .next
  | s :: rest => (s.run scope).andThen (runAll scope rest)

/-- how a `switch` ends whose subject is `v` -/
def runFrom (scope : Scope) (v : Value) : List Stmt → Outcome
  | [] => .next
  | .label literal :: rest => if v.isText literal then runAll scope rest else runFrom scope v rest
  | _ :: rest => runFrom scope v rest

end

/-- how a call of the function `name` ends, if the program defines it -/
def call? (name : String) (argument : Value) : List Stmt → Option Outcome
  | [] => none
  | .define n parameter body :: rest =>
    if n = name then some (runAll [(parameter, argument)] body) else call? name argument rest
  | _ :: rest => call? name argument rest

/-! ## Reading -/

/-- the member accesses behind an expression, with what follows them -/
def readMembers (e : Expr) : List Token → Expr × List Token
  | .mark "." :: .word key :: rest => readMembers (.member e key) rest
  | .mark "[" :: .text key :: .mark "]" :: rest => readMembers (.member e key) rest
  | rest => (e, rest)

/-- an expression, with what follows it -/
def readExpr? : List Token → Option (Expr × List Token)
  | .word n :: rest =>
    match readMembers (.name n) rest with
    | (e, .mark "===" :: .text literal :: rest) => some (.same e literal, rest)
    | (e, rest) => some (e, rest)
  | _ => none

/-- what a block belongs to -/
inductive Head where
  | branch (condition : Expr)
  | choice (subject : Expr)
  | function (name parameter : String)
  deriving DecidableEq, Repr

/-- what the tokens before an opening brace say -/
def Head.read? : List Token → Option Head
  | .word "if" :: .mark "(" :: rest =>
    match readExpr? rest with
    | some (condition, [.mark ")"]) => some (.branch condition)
    | _ => none
  | .word "switch" :: .mark "(" :: rest =>
    match readExpr? rest with
    | some (subject, [.mark ")"]) => some (.choice subject)
    | _ => none
  | [.word "const", .word name, .mark "=", .mark "(", .word parameter, .mark ")", .mark "=>"] =>
    some (.function name parameter)
  | _ => none

/-- a text that has been read in part -/
structure Reader where
  /-- the tokens of the statement that is open, without its function -/
  pending : List Token := []
  /-- the function at the end of the statement that is open -/
  closed : Option (String × List Stmt) := none
  /-- the statements of the innermost open block -/
  block : List Stmt := []
  /-- the other open blocks, each with what the block inside it belongs to -/
  outer : List (Head × List Stmt) := []

/-- one token -/
def Reader.step? (r : Reader) (t : Token) : Option Reader :=
  match t, r.closed with
  | .mark ";", some (parameter, body) =>
    match r.pending with
    | [.word "const", .word name, .mark "="] =>
      some { block := r.block ++ [.define name parameter body], outer := r.outer }
    | _ => none
  | _, some _ => none
  | .mark ";", none =>
    match r.pending with
    | [.word "return", .word "true"] => some { r with pending := [], block := r.block ++ [.giveBack true] }
    | [.word "return", .word "false"] => some { r with pending := [], block := r.block ++ [.giveBack false] }
    | _ => none
  | .mark ":", none =>
    match r.pending, r.outer with
    | [.word "case", .text literal], (.choice _, _) :: _ =>
      some { r with pending := [], block := r.block ++ [.label literal] }
    | _, _ => none
  | .mark "\x7b", none =>
    (Head.read? r.pending).map fun head => { outer := (head, r.block) :: r.outer }
  | .mark "\x7d", none =>
    match r.pending, r.outer with
    | [], (.branch condition, before) :: outer =>
      some { block := before ++ [.branch condition r.block], outer }
    | [], (.choice subject, before) :: outer =>
      some { block := before ++ [.choice subject r.block], outer }
    | [], (.function name parameter, before) :: outer =>
      some { pending := [.word "const", .word name, .mark "="], closed := some (parameter, r.block),
             block := before, outer }
    | _, _ => none
  | t, none => some { r with pending := r.pending ++ [t] }

/-- some tokens -/
def Reader.readFrom? (r : Reader) : List Token → Option Reader
  | [] => some r
  | t :: rest => (r.step? t).bind fun next => next.readFrom? rest

/-- the program that a text holds -/
def read? (text : String) : Option (List Stmt) := do
  let tokens ← tokens? text
  match ← Reader.readFrom? {} tokens with
  | { pending := [], closed := none, block, outer := [] } => some block
  | _ => none

/-! ## Reading in parts -/

theorem readFrom?_append (r : Reader) (ts us : List Token) :
    r.readFrom? (ts ++ us) = (r.readFrom? ts).bind fun next => next.readFrom? us := by
  induction ts generalizing r with
  | nil => rfl
  | cons t ts ih =>
    simp only [List.cons_append, Reader.readFrom?]
    cases r.step? t with
    | none => rfl
    | some next => exact ih next

/-- `Reads outer ts body`: between two statements in the open blocks `outer`, the tokens `ts` are the statements
`body` -/
def Reads (outer : List (Head × List Stmt)) (ts : List Token) (body : List Stmt) : Prop :=
  ∀ block, Reader.readFrom? { block, outer } ts = some { block := block ++ body, outer }

section

variable {outer : List (Head × List Stmt)} {ts us : List Token} {body more : List Stmt}

theorem Reads.nil : Reads outer [] [] := fun block => by simp [Reader.readFrom?]

theorem Reads.append (first : Reads outer ts body) (second : Reads outer us more) :
    Reads outer (ts ++ us) (body ++ more) := by
  intro block
  rw [readFrom?_append, first, Option.bind_some, second, List.append_assoc]

/-- Lists of statements are read one after the other. -/
theorem Reads.flatMap {α : Type} {items : List α} {tokens : α → List Token} {stmts : α → List Stmt}
    (each : ∀ a ∈ items, Reads outer (tokens a) (stmts a)) :
    Reads outer (items.flatMap tokens) (items.flatMap stmts) :=
  flatMap_related .nil .append each

/-- Tokens between braces are the body of what stands before the braces. -/
theorem readFrom?_braces {head : List Token} {h : Head} {block : List Stmt}
    (opens : Reader.readFrom? { block, outer } head = some { outer := (h, block) :: outer })
    (inside : Reads ((h, block) :: outer) ts body) :
    Reader.readFrom? { block, outer } (head ++ ts) = some { block := body, outer := (h, block) :: outer } := by
  rw [readFrom?_append, opens, Option.bind_some, inside, List.nil_append]

end

end HookFlow.Script
