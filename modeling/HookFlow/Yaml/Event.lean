import HookFlow.Yaml.Token
/-!
The events of a YAML text: the nodes of its documents in the order in which they open and close.

The reader is a machine with a stack. What it expects next is one of the `Expect` states; a node that
has parts leaves on the stack what to expect behind each part. A part that is not written is an empty
plain scalar.
-/

namespace HookFlow.Yaml

/-- a step in the structure of a document -/
inductive Event where
  | documentStart
  | documentEnd
  | alias (name : List Char)
  | scalar (anchor : Option (List Char)) (tag : Option (List Char)) (text : List Char)
      (style : ScalarStyle)
  | sequenceStart (anchor : Option (List Char)) (tag : Option (List Char))
  | sequenceEnd
  | mappingStart (anchor : Option (List Char)) (tag : Option (List Char))
  | mappingEnd
  deriving DecidableEq, Repr

/-- what may come next -/
inductive Expect where
  | documentStart (implicit : Bool)
  | documentContent
  | documentEnd
  | node (block indentless : Bool)
  | blockSequenceEntry (first : Bool)
  | indentlessEntry
  | blockMappingKey (first : Bool)
  | blockMappingValue
  | flowSequenceEntry (first : Bool)
  | flowPairKey
  | flowPairValue
  | flowPairEnd
  | flowMappingKey (first : Bool)
  | flowMappingValue (empty : Bool)
  deriving DecidableEq, Repr

/-- the state of reading events -/
structure Machine where
  tokens : List Token
  expect : Expect
  stack : List Expect := []
  /-- the tag handles of the document with what they stand for -/
  handles : List (List Char × List Char) := []

/-- what comes of one step -/
inductive Machine.Outcome where
  | event (e : Event) (m : Machine)
  | silent (m : Machine)
  | streamEnd
  | failed

namespace Machine

/-- an empty plain scalar -/
def emptyScalar : Event := .scalar none none [] .plain

/-- the machine with what the stack holds next -/
def pop (m : Machine) : Machine :=
  match m.stack with
  | e :: rest => { m with expect := e, stack := rest }
  | [] => { m with expect := .documentEnd }

/-- the machine that reads a node and then expects `after` -/
def thenNode (m : Machine) (tokens : List Token) (after : Expect) (block indentless : Bool) :
    Outcome :=
  .silent { m with tokens := tokens, expect := .node block indentless, stack := after :: m.stack }

/-- the event of an empty scalar, with `after` expected behind it -/
def empty (m : Machine) (tokens : List Token) (after : Expect) : Outcome :=
  .event emptyScalar { m with tokens := tokens, expect := after }

/-- the handles that every document knows -/
def standardHandles : List (List Char × List Char) :=
  [(['!'], ['!']), (['!', '!'], "tag:yaml.org,2002:".toList)]

/-- the directives in front of a document: its handles and the tokens behind. A version may be given
once and must be 1.1 or 1.2, a handle may be defined once. -/
def directives? (seen : Bool) (handles : List (List Char × List Char)) :
    List Token → Option (List (List Char × List Char) × List Token)
  | .versionDirective major minor :: rest =>
    if seen || major ≠ 1 || (minor ≠ 1 && minor ≠ 2) then none
    else directives? true handles rest
  | .tagDirective handle lead :: rest =>
    if handles.any (·.1 == handle) then none
    else directives? seen ((handle, lead) :: handles) rest
  | rest => some (handles ++ standardHandles, rest)

/-- the tag that a handle and a suffix amount to -/
def resolveTag? (m : Machine) (handle suffix : List Char) : Option (List Char) :=
  if handle.isEmpty then some suffix
  else (m.handles.lookup handle).map (· ++ suffix)

/-- the properties in front of a node, an anchor and a tag in either order, and the tokens behind -/
def properties? (m : Machine) :
    Option (Option (List Char) × Option (List Char) × List Token) :=
  match m.tokens with
  | .anchor a :: .tag h s :: rest => (m.resolveTag? h s).map fun t => (some a, some t, rest)
  | .anchor a :: rest => some (some a, none, rest)
  | .tag h s :: .anchor a :: rest => (m.resolveTag? h s).map fun t => (some a, some t, rest)
  | .tag h s :: rest => (m.resolveTag? h s).map fun t => (none, some t, rest)
  | rest => some (none, none, rest)

/-- whether the tokens run out behind properties that more tokens could extend -/
def propertiesCut : List Token → Bool
  | [.anchor _] => true
  | [.tag _ _] => true
  | _ => false

/-- a node -/
def node (m : Machine) (block indentless : Bool) : Outcome :=
  if propertiesCut m.tokens then .failed
  else match m.tokens with
  | .alias name :: rest => .event (.alias name) { m with tokens := rest }.pop
  | _ =>
    match m.properties? with
    | none => .failed
    | some (anchor, tag, tokens) =>
      match tokens with
      | [] => .failed
      | t :: rest =>
        match t with
        | .scalar text style =>
          .event (.scalar anchor tag text style) { m with tokens := rest }.pop
        | .flowSequenceStart =>
          .event (.sequenceStart anchor tag)
            { m with tokens := rest, expect := .flowSequenceEntry true }
        | .flowMappingStart =>
          .event (.mappingStart anchor tag)
            { m with tokens := rest, expect := .flowMappingKey true }
        | .blockSequenceStart =>
          if block then
            .event (.sequenceStart anchor tag)
              { m with tokens := rest, expect := .blockSequenceEntry true }
          else if anchor.isSome || tag.isSome then
            .event (.scalar anchor tag [] .plain) { m with tokens := tokens }.pop
          else .failed
        | .blockMappingStart =>
          if block then
            .event (.mappingStart anchor tag)
              { m with tokens := rest, expect := .blockMappingKey true }
          else if anchor.isSome || tag.isSome then
            .event (.scalar anchor tag [] .plain) { m with tokens := tokens }.pop
          else .failed
        | .blockEntry =>
          if indentless then
            .event (.sequenceStart anchor tag)
              { m with tokens := tokens, expect := .indentlessEntry }
          else if anchor.isSome || tag.isSome then
            .event (.scalar anchor tag [] .plain) { m with tokens := tokens }.pop
          else .failed
        | _ =>
          if anchor.isSome || tag.isSome then
            .event (.scalar anchor tag [] .plain) { m with tokens := tokens }.pop
          else .failed

/-- the start of a document, or the end of the text; only the first document may lack its marker -/
def documentStart (m : Machine) (implicit : Bool) : Outcome :=
  let tokens := if implicit then m.tokens else m.tokens.dropWhile (· == .documentEnd)
  let explicitStart : Outcome :=
    match directives? false [] tokens with
    | some (handles, .documentStart :: rest) =>
      .event .documentStart
        { tokens := rest, expect := .documentContent, stack := .documentEnd :: m.stack, handles }
    | _ => .failed
  match tokens with
  | [] => .failed
  | .streamEnd :: _ => .streamEnd
  | .versionDirective _ _ :: _ => explicitStart
  | .tagDirective _ _ :: _ => explicitStart
  | .documentStart :: _ => explicitStart
  | _ =>
    if implicit then
      .event .documentStart
        { tokens := tokens, expect := .node true false, stack := .documentEnd :: m.stack,
          handles := standardHandles }
    else .failed

/-- one step of the machine -/
def step (m : Machine) : Outcome :=
  match m.expect with
  | .documentStart implicit => m.documentStart implicit
  | .documentContent =>
    match m.tokens with
    | [] => .failed
    | .versionDirective _ _ :: _ | .tagDirective _ _ :: _ | .documentStart :: _
    | .documentEnd :: _ | .streamEnd :: _ => .event emptyScalar m.pop
    | _ => .silent { m with expect := .node true false }
  | .documentEnd =>
    match m.tokens with
    | [] => .failed
    | .documentEnd :: rest =>
      .event .documentEnd { m with tokens := rest, expect := .documentStart false, handles := [] }
    | _ => .event .documentEnd { m with expect := .documentStart false, handles := [] }
  | .node block indentless => m.node block indentless
  | .blockSequenceEntry _ =>
    match m.tokens with
    | [.blockEntry] => .failed
    | .blockEntry :: rest =>
      match rest with
      | .blockEntry :: _ | .blockEnd :: _ => m.empty rest (.blockSequenceEntry false)
      | _ => m.thenNode rest (.blockSequenceEntry false) true false
    | .blockEnd :: rest => .event .sequenceEnd { m with tokens := rest }.pop
    | _ => .failed
  | .indentlessEntry =>
    match m.tokens with
    | [] | [.blockEntry] => .failed
    | .blockEntry :: rest =>
      match rest with
      | .blockEntry :: _ | .key :: _ | .value :: _ | .blockEnd :: _ =>
        m.empty rest .indentlessEntry
      | _ => m.thenNode rest .indentlessEntry true false
    | _ => .event .sequenceEnd m.pop
  | .blockMappingKey _ =>
    match m.tokens with
    | [.key] => .failed
    | .key :: rest =>
      match rest with
      | .key :: _ | .value :: _ | .blockEnd :: _ => m.empty rest .blockMappingValue
      | _ => m.thenNode rest .blockMappingValue true true
    | .blockEnd :: rest => .event .mappingEnd { m with tokens := rest }.pop
    | _ => .failed
  | .blockMappingValue =>
    match m.tokens with
    | [] | [.value] => .failed
    | .value :: rest =>
      match rest with
      | .key :: _ | .value :: _ | .blockEnd :: _ => m.empty rest (.blockMappingKey false)
      | _ => m.thenNode rest (.blockMappingKey false) true true
    | tokens => m.empty tokens (.blockMappingKey false)
  | .flowSequenceEntry first =>
    let entry (tokens : List Token) : Outcome :=
      match tokens with
      | [] => .failed
      | .key :: rest =>
        .event (.mappingStart none none) { m with tokens := rest, expect := .flowPairKey }
      | .flowSequenceEnd :: rest => .event .sequenceEnd { m with tokens := rest }.pop
      | tokens => m.thenNode tokens (.flowSequenceEntry false) false false
    match m.tokens with
    | .flowSequenceEnd :: rest => .event .sequenceEnd { m with tokens := rest }.pop
    | tokens =>
      if first then entry tokens
      else match tokens with
        | .flowEntry :: rest => entry rest
        | _ => .failed
  | .flowPairKey =>
    match m.tokens with
    | [] => .failed
    -- a key that is left out takes the token behind it along
    | .value :: rest | .flowEntry :: rest | .flowSequenceEnd :: rest => m.empty rest .flowPairValue
    | tokens => m.thenNode tokens .flowPairValue false false
  | .flowPairValue =>
    match m.tokens with
    | [] | [.value] => .failed
    | .value :: rest =>
      match rest with
      | .flowEntry :: _ | .flowSequenceEnd :: _ => m.empty rest .flowPairEnd
      | _ => m.thenNode rest .flowPairEnd false false
    | tokens => m.empty tokens .flowPairEnd
  | .flowPairEnd =>
    if m.tokens.isEmpty then .failed
    else .event .mappingEnd { m with expect := .flowSequenceEntry false }
  | .flowMappingKey first =>
    let entry (tokens : List Token) : Outcome :=
      match tokens with
      | [] | [.key] => .failed
      | .key :: rest =>
        match rest with
        | .value :: _ | .flowEntry :: _ | .flowMappingEnd :: _ =>
          m.empty rest (.flowMappingValue false)
        | _ => m.thenNode rest (.flowMappingValue false) false false
      | .flowMappingEnd :: rest => .event .mappingEnd { m with tokens := rest }.pop
      | tokens => m.thenNode tokens (.flowMappingValue true) false false
    match m.tokens with
    | .flowMappingEnd :: rest => .event .mappingEnd { m with tokens := rest }.pop
    | tokens =>
      if first then entry tokens
      else match tokens with
        | .flowEntry :: rest => entry rest
        | _ => .failed
  | .flowMappingValue empty =>
    match empty, m.tokens with
    | _, [] | false, [.value] => .failed
    | false, .value :: rest =>
      match rest with
      | .flowEntry :: _ | .flowMappingEnd :: _ => m.empty rest (.flowMappingKey false)
      | _ => m.thenNode rest (.flowMappingKey false) false false
    | _, tokens => m.empty tokens (.flowMappingKey false)

/-- the events from a state on, behind those in `acc` (in reverse), and whether the text was well
formed up to its end; `fuel` bounds the steps -/
def run : Nat → List Event → Machine → List Event × Bool
  | 0, acc, _ => (acc.reverse, false)
  | fuel + 1, acc, m =>
    match m.step with
    | .event e m => run fuel (e :: acc) m
    | .silent m => run fuel acc m
    | .streamEnd => (acc.reverse, true)
    | .failed => (acc.reverse, false)

end Machine

/-- the events of a list of tokens, and whether the tokens form whole documents; no token leads to
more than eight steps -/
def Event.ofTokens (tokens : List Token) : List Event × Bool :=
  Machine.run (8 * tokens.length + 8) [] { tokens, expect := .documentStart true }

end HookFlow.Yaml
