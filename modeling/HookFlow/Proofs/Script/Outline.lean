import HookFlow.Proofs.Script.Lexer
/-!
The outline of a source text: its statements in order, and the blocks that they stand in.

A statement ends with a semicolon, or with its block if it begins with a word of control. It is known by its
tokens, and a few kinds are told apart by what they do: set an environment variable, forget or load a module, answer
a request, give a name to texts. Whether a property is written behind a dot or in brackets makes no difference. All
other statements, and what stands before a block, keep their tokens.

Results:
- `Builds.append`: two parts in sequence have the pieces of both.
- `builds_statement`, `builds_object`, `builds_block`, `builds_function`: the pieces of the four kinds of statements.
-/

namespace HookFlow.Script

/-! ## Statements -/

/-- what a statement does -/
inductive Deed where
  /-- names a text -/
  | constant (name value : String)
  /-- names a list of texts -/
  | constants (name : String) (values : List String)
  /-- gives an environment variable a text -/
  | set (key value : String)
  /-- gives an environment variable the text that has a name -/
  | setNamed (key name : String)
  /-- takes a module out of the cache -/
  | forget (path : String)
  /-- runs a module and waits for it -/
  | load (path : String)
  /-- answers the request -/
  | respond (status body : String)
  | other (ts : List Token)
  deriving DecidableEq, Repr

/-- the texts of a list literal whose opening bracket is already read -/
def texts? : List Token → Option (List String)
  | [.mark "]"] => some []
  | [.text s, .mark "]"] => some [s]
  | .text s :: .mark "," :: rest => (texts? rest).map (s :: ·)
  | _ => none

/-- what the tokens of a statement say -/
def Deed.ofTokens : List Token → Deed
  | [.word "const", .word name, .mark "=", .text value] => .constant name value
  | .word "const" :: .word name :: .mark "=" :: .mark "[" :: rest =>
    match texts? rest with
    | some values => .constants name values
    | none => .other (.word "const" :: .word name :: .mark "=" :: .mark "[" :: rest)
  | [.word "process", .mark ".", .word "env", .mark ".", .word key, .mark "=", .text value] =>
    .set key value
  | [.word "process", .mark ".", .word "env", .mark "[", .text key, .mark "]", .mark "=", .text value] =>
    .set key value
  | [.word "process", .mark ".", .word "env", .mark ".", .word key, .mark "=", .word name] =>
    .setNamed key name
  | [.word "delete", .word "require", .mark ".", .word "cache", .mark "[", .word "require", .mark ".",
      .word "resolve", .mark "(", .text path, .mark ")", .mark "]"] => .forget path
  | [.word "await", .word "require", .mark "(", .text path, .mark ")"] => .load path
  | [.word "context", .mark ".", .word "res", .mark "=", .mark "\x7b", .word "status", .mark ":", .word status,
      .mark ",", .word "body", .mark ":", .text body, .mark "\x7d"] => .respond status body
  | ts => .other ts

theorem ofTokens_constants {name : String} {rest : List Token} {values : List String}
    (held : texts? rest = some values) :
    Deed.ofTokens ([.word "const", .word name, .mark "=", .mark "["] ++ rest) = .constants name values := by
  have list : Deed.ofTokens ([.word "const", .word name, .mark "=", .mark "["] ++ rest) =
      match texts? rest with
      | some values => .constants name values
      | none => .other (.word "const" :: .word name :: .mark "=" :: .mark "[" :: rest) := rfl
  rw [list, held]

/-- a part of a program -/
inductive Piece where
  | statement (d : Deed)
  /-- a statement that ends with a block -/
  | block (head : List Token) (body : List Piece)
  /-- a statement whose value is a function, with the function's block -/
  | function (head : List Token) (body : List Piece)

/-! ## Reading -/

/-- whether a token leaves the statement as it is that it stands in -/
def Token.isPlain (t : Token) : Bool := t ∉ [.mark ";", .mark "\x7b", .mark "\x7d"]

/-- whether a statement that begins like this ends with its block -/
def isControl : List Token → Bool
  | .word w :: _ => w ∈ ["if", "switch", "try", "catch"]
  | _ => false

/-- a program that has been read in part -/
structure Builder where
  /-- the tokens of the statement that is open -/
  pending : List Token := []
  /-- whether an object literal is open -/
  inObject : Bool := false
  /-- what stands before the block of a function whose semicolon is missing, and the block -/
  closed : Option (List Token × List Piece) := none
  /-- the pieces of the innermost open block -/
  pieces : List Piece := []
  /-- the other open blocks, each with what stands before the block inside it -/
  outer : List (List Token × List Piece) := []

namespace Builder

/-- a brace or a semicolon between two statements or at the end of one -/
def turn? (b : Builder) : Token → Option Builder
  | .mark ";" => some { pieces := b.pieces ++ [.statement (.ofTokens b.pending)], outer := b.outer }
  | .mark "\x7b" =>
    -- behind an equals sign a brace belongs to a value, not to a block
    if b.pending.getLast? = some (.mark "=") then
      some { b with pending := b.pending ++ [.mark "\x7b"], inObject := true }
    else some { outer := (b.pending, b.pieces) :: b.outer }
  | _ =>
    match b.pending, b.outer with
    | [], (head, before) :: outer =>
      if isControl head then some { pieces := before ++ [.block head b.pieces], outer }
      else some { closed := some (head, b.pieces), pieces := before, outer }
    | _, _ => none

/-- one token -/
def step? (b : Builder) (t : Token) : Option Builder :=
  match b.closed with
  | some (head, body) =>
    if t = .mark ";" then some { pieces := b.pieces ++ [.function head body], outer := b.outer } else none
  | none =>
    if t.isPlain then some { b with pending := b.pending ++ [t] }
    else if b.inObject then
      if t = .mark "\x7d" then some { b with pending := b.pending ++ [t], inObject := false } else none
    else b.turn? t

/-- some tokens -/
def feed? (b : Builder) : List Token → Option Builder
  | [] => some b
  | t :: rest => (b.step? t).bind fun next => next.feed? rest

end Builder

/-- the statements and blocks of a source text -/
def outline? (text : String) : Option (List Piece) := do
  let tokens ← tokens? text
  match ← Builder.feed? {} tokens with
  | { pending := [], inObject := false, closed := none, pieces, outer := [] } => some pieces
  | _ => none

/-! ## Reading in parts -/

theorem feed?_append (b : Builder) (ts us : List Token) :
    b.feed? (ts ++ us) = (b.feed? ts).bind fun next => next.feed? us := by
  induction ts generalizing b with
  | nil => rfl
  | cons t ts ih =>
    simp only [List.cons_append, Builder.feed?]
    cases b.step? t with
    | none => rfl
    | some next => exact ih next

/-- `Builds outer ts ps`: between two statements in the open blocks `outer`, the tokens `ts` are the pieces `ps` -/
def Builds (outer : List (List Token × List Piece)) (ts : List Token) (ps : List Piece) : Prop :=
  ∀ pieces, Builder.feed? { pieces, outer } ts = some { pieces := pieces ++ ps, outer }

section

variable {outer : List (List Token × List Piece)} {ts us head : List Token} {ps qs body : List Piece}

theorem Builds.nil : Builds outer [] [] := fun pieces => by simp [Builder.feed?]

theorem Builds.append (first : Builds outer ts ps) (second : Builds outer us qs) :
    Builds outer (ts ++ us) (ps ++ qs) := by
  intro pieces
  rw [feed?_append, first, Option.bind_some, second, List.append_assoc]

/-- A text whose tokens are read as some pieces has these pieces. -/
theorem Builds.outline? {text : String} (lexed : tokens? text = some ts) (built : Builds [] ts ps) :
    outline? text = some ps := by
  have read : Builder.feed? {} ts = some { pieces := ps } := built []
  simp [Script.outline?, lexed, read]

/-- Lists of statements are read one after the other. -/
theorem Builds.flatMap {α : Type} {items : List α} {tokens : α → List Token} {pieces : α → List Piece}
    (each : ∀ a ∈ items, Builds outer (tokens a) (pieces a)) :
    Builds outer (items.flatMap tokens) (items.flatMap pieces) :=
  flatMap_related .nil .append each

/-- Plain tokens join the statement that is open. -/
theorem feed?_plain (plain : ∀ t ∈ ts, t.isPlain) (pending : List Token) (inObject : Bool) (pieces : List Piece) :
    Builder.feed? { pending, inObject, pieces, outer } ts =
      some { pending := pending ++ ts, inObject, pieces, outer } := by
  induction ts generalizing pending with
  | nil => simp [Builder.feed?]
  | cons t ts ih =>
    obtain ⟨first, later⟩ := List.forall_mem_cons.1 plain
    have joined : Builder.step? { pending, inObject, pieces, outer } t =
        some { pending := pending ++ [t], inObject, pieces, outer } := by
      simp [Builder.step?, first]
    rw [Builder.feed?, joined, Option.bind_some, ih later, List.append_assoc, List.singleton_append]

/-- **A statement ends with its semicolon.** -/
theorem builds_statement (plain : ∀ t ∈ ts, t.isPlain) :
    Builds outer (ts ++ [.mark ";"]) [.statement (.ofTokens ts)] := by
  intro pieces
  rw [feed?_append, feed?_plain plain, Option.bind_some]
  rfl

/-- **An object literal is part of its statement.** -/
theorem builds_object (place : ∀ t ∈ ts, t.isPlain) (fields : ∀ t ∈ us, t.isPlain) :
    Builds outer (ts ++ [.mark "=", .mark "\x7b"] ++ us ++ [.mark "\x7d", .mark ";"])
      [.statement (.ofTokens (ts ++ [.mark "=", .mark "\x7b"] ++ us ++ [.mark "\x7d"]))] := by
  intro pieces
  have opened : Builder.feed? { pending := ts, pieces, outer } [.mark "=", .mark "\x7b"] =
      some { pending := ts ++ [.mark "=", .mark "\x7b"], inObject := true, pieces, outer } := by
    simp [Builder.feed?, Builder.step?, Builder.turn?, Token.isPlain]
  rw [feed?_append, feed?_append, feed?_append, feed?_plain place, Option.bind_some, List.nil_append, opened,
    Option.bind_some, feed?_plain fields, Option.bind_some]
  rfl

/-- The tokens before a block and its opening brace open the block. -/
theorem feed?_open (plain : ∀ t ∈ head, t.isPlain) (free : head.getLast? ≠ some (.mark "="))
    (pieces : List Piece) :
    Builder.feed? { pieces, outer } (head ++ [.mark "\x7b"]) = some { outer := (head, pieces) :: outer } := by
  rw [feed?_append, feed?_plain plain, Option.bind_some, List.nil_append]
  simp [Builder.feed?, Builder.step?, Builder.turn?, Token.isPlain, free]

/-- **A statement of control ends with its block.** -/
theorem builds_block (plain : ∀ t ∈ head, t.isPlain) (free : head.getLast? ≠ some (.mark "="))
    (control : isControl head) (inside : ∀ before, Builds ((head, before) :: outer) ts body) :
    Builds outer (head ++ [.mark "\x7b"] ++ ts ++ [.mark "\x7d"]) [.block head body] := by
  intro pieces
  rw [feed?_append, feed?_append, feed?_open plain free, Option.bind_some, inside, Option.bind_some]
  simp [Builder.feed?, Builder.step?, Builder.turn?, Token.isPlain, control]

/-- **A statement with a function ends with a semicolon behind the block.** -/
theorem builds_function (plain : ∀ t ∈ head, t.isPlain) (free : head.getLast? ≠ some (.mark "="))
    (value : isControl head = false) (inside : ∀ before, Builds ((head, before) :: outer) ts body) :
    Builds outer (head ++ [.mark "\x7b"] ++ ts ++ [.mark "\x7d", .mark ";"]) [.function head body] := by
  intro pieces
  rw [feed?_append, feed?_append, feed?_open plain free, Option.bind_some, inside, Option.bind_some]
  simp [Builder.feed?, Builder.step?, Builder.turn?, Token.isPlain, value]

end

end HookFlow.Script
