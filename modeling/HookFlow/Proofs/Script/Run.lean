import HookFlow.Proofs.Script.Outline
/-!
What the parts of a program do to the environment.

A run goes over the pieces of an outline in order. It knows the environment variables, the texts that have names and
the modules in the cache, and it keeps a record of every module that it runs with the variables that the module finds.
Everything else belongs to the world: which conditions hold, which statements throw, and what a module makes of the
variables. A statement about all worlds is a statement about all deliveries and all modules.

Results:
- `runPieces_append`: pieces in sequence run until one of them ends the run.
- `Leads.andThen`: the rule for what runs in sequence lead to.
- `setAll_eq`: of several assignments to a variable the last one counts.
-/

namespace HookFlow.Script

/-- environment variables with their values -/
abbrev Variables := String → Option String

def Variables.set (vars : Variables) (key value : String) : Variables :=
  fun k => if k = key then some value else vars k

/-- what a run depends on besides its program -/
structure World where
  /-- whether a condition holds, unless it throws -/
  holds : List Token → Option Bool
  /-- whether a statement throws -/
  throws : List Token → Bool
  /-- whether a module comes to its end, and the variables that it leaves; it may remember what ran before it -/
  runModule (before : List (String × Variables)) (path : String) (vars : Variables) : Bool × Variables

/-- whether a world lets every check pass, and nothing throws -/
structure World.LetsPass (w : World) : Prop where
  checks : ∀ condition, w.holds condition = some false
  statements : ∀ ts, w.throws ts = false
  modules : ∀ before path vars, (w.runModule before path vars).1 = true

/-- what a run knows -/
structure Memory where
  vars : Variables
  /-- the texts that have names -/
  texts : List (String × String) := []
  /-- the modules that need not be run again -/
  cached : List String := []
  /-- the modules that were run, in order, each with the variables that it found -/
  loads : List (String × Variables) := []

/-- how a piece ends -/
inductive Ending where
  /-- the piece behind it is next -/
  | next
  | returned
  | thrown
  /-- it is not known what the piece does -/
  | unknown
  deriving DecidableEq, Repr

/-- goes on from where a piece ended, if the next one is reached -/
def andThen (r : Ending × Memory) (go : Memory → Ending × Memory) : Ending × Memory :=
  match r with
  | (.next, m) => go m
  | ended => ended

@[simp] theorem andThen_next (m : Memory) (go : Memory → Ending × Memory) : andThen (.next, m) go = go m := rfl

@[simp] theorem andThen_returned (m : Memory) (go : Memory → Ending × Memory) :
    andThen (.returned, m) go = (.returned, m) := rfl

@[simp] theorem andThen_thrown (m : Memory) (go : Memory → Ending × Memory) :
    andThen (.thrown, m) go = (.thrown, m) := rfl

@[simp] theorem andThen_unknown (m : Memory) (go : Memory → Ending × Memory) :
    andThen (.unknown, m) go = (.unknown, m) := rfl

/-- the word that a head begins with -/
def keyword? : List Token → Option String
  | .word w :: _ => some w
  | _ => none

/-- whether tokens name what the environment or the modules are reached by -/
def isForeign (ts : List Token) : Bool := .word "process" ∈ ts ∨ .word "require" ∈ ts

/-- what a statement does -/
def Deed.run (w : World) (m : Memory) : Deed → Ending × Memory
  | .constant name value => (.next, { m with texts := (name, value) :: m.texts })
  | .constants _ _ => (.next, m)
  | .set key value => (.next, { m with vars := m.vars.set key value })
  | .setNamed key name =>
    match m.texts.lookup name with
    | some value => (.next, { m with vars := m.vars.set key value })
    | none => (.thrown, m)
  | .forget path => (.next, { m with cached := m.cached.filter (· != path) })
  | .load path =>
    if path ∈ m.cached then (.next, m)
    else
      let (ends, vars) := w.runModule m.loads path m.vars
      (if ends then .next else .thrown,
        { m with vars, cached := path :: m.cached, loads := m.loads ++ [(path, m.vars)] })
  | .respond _ _ => (.next, m)
  | .other ts =>
    if isForeign ts then (.unknown, m)
    else if w.throws ts then (.thrown, m)
    else if keyword? ts = some "return" then (.returned, m)
    else (.next, m)

/-- whether what a piece throws may be caught behind it -/
def Piece.isAttempt : Piece → Bool
  | .block head _ => keyword? head == some "try"
  | _ => false

@[simp] theorem isAttempt_statement (d : Deed) : (Piece.statement d).isAttempt = false := rfl

mutual

/-- what a piece does; a `catch` block is passed over when it is reached from above -/
def Piece.run (w : World) (m : Memory) : Piece → Ending × Memory
  | .statement d => d.run w m
  | .function _ _ => (.next, m)
  | .block head body =>
    if keyword? head = some "try" then runPieces w m body
    else if keyword? head = some "catch" then (.next, m)
    else if keyword? head = some "if" ∧ !isForeign head then
      match w.holds head with
      | some true => runPieces w m body
      | some false => (.next, m)
      | none => (.thrown, m)
    else (.unknown, m)

/-- what some pieces do one after the other -/
def runPieces (w : World) (m : Memory) : List Piece → Ending × Memory
  | [] => (.next, m)
  | p :: rest =>
    match p.run w m with
    | (.thrown, m') => if p.isAttempt then rescuePieces w m' rest else (.thrown, m')
    | ended => andThen ended fun m' => runPieces w m' rest

/-- what some pieces do when something was thrown right before them -/
def rescuePieces (w : World) (m : Memory) : List Piece → Ending × Memory
  | .block head body :: rest =>
    if keyword? head = some "catch" then andThen (runPieces w m body) fun m' => runPieces w m' rest
    else (.thrown, m)
  | _ => (.thrown, m)

end

/-- the body of the function that a program exports -/
def exported? (program : List Piece) : Option (List Piece) :=
  program.findSome? fun
    | .function head body => if head = code "module.exports = async function (context, req)" then some body else none
    | _ => none

/-- what a delivery comes to, given the variables that are set when it arrives -/
def deliver? (w : World) (vars : Variables) (source : String) : Option (Ending × Memory) := do
  let program ← outline? source
  let body ← exported? program
  return runPieces w { vars } body

/-! ## Pieces in sequence -/

variable {w : World}

@[simp] theorem runPieces_nil (m : Memory) : runPieces w m [] = (.next, m) := rfl

theorem runPieces_append {ps : List Piece} (open' : ∀ p ∈ ps, p.isAttempt = false) (m : Memory) (qs : List Piece) :
    runPieces w m (ps ++ qs) = andThen (runPieces w m ps) fun m' => runPieces w m' qs := by
  induction ps generalizing m with
  | nil => rfl
  | cons p ps ih =>
    obtain ⟨first, later⟩ := List.forall_mem_cons.1 open'
    rw [List.cons_append, runPieces, runPieces]
    rcases p.run w m with ⟨_ | _ | _ | _, m'⟩
    · exact ih later m'
    · rfl
    · simp [first, andThen]
    · rfl

theorem runPieces_cons {p : Piece} {m m' : Memory} (ran : p.run w m = (.next, m')) (ps : List Piece) :
    runPieces w m (p :: ps) = runPieces w m' ps := by
  rw [runPieces, ran]
  rfl

theorem runPieces_single {p : Piece} (alone : p.isAttempt = false) (m : Memory) : runPieces w m [p] = p.run w m := by
  rw [runPieces]
  rcases p.run w m with ⟨_ | _ | _ | _, m'⟩
  · rfl
  · rfl
  · simp [alone]
  · rfl

/-- What a block throws is caught by the block behind it. -/
theorem runPieces_attempt {head clause : List Token} (tries : keyword? head = some "try")
    (catches : keyword? clause = some "catch") (m : Memory) (body handler : List Piece) :
    runPieces w m [.block head body, .block clause handler] =
      match runPieces w m body with
      | (.thrown, m') => runPieces w m' handler
      | ended => ended := by
  have attempt : (Piece.block head body).isAttempt = true := by simp [Piece.isAttempt, tries]
  rw [runPieces, Piece.run, if_pos tries]
  rcases runPieces w m body with ⟨_ | _ | _ | _, m'⟩
  · simp [andThen, runPieces, Piece.run, catches]
  · rfl
  · simp only [attempt, if_true, rescuePieces, catches, runPieces]
    rcases runPieces w m' handler with ⟨_ | _ | _ | _, m''⟩ <;> rfl
  · rfl

/-! ## Pieces that leave modules alone -/

/-- whether some pieces run no module and leave variables of a kind as they are -/
def Idle (w : World) (kind : String → Prop) (ps : List Piece) : Prop :=
  ∀ m, (runPieces w m ps).1 ≠ .unknown ∧ (runPieces w m ps).2.loads = m.loads ∧
    ∀ v, kind v → (runPieces w m ps).2.vars v = m.vars v

section

variable {kind : String → Prop} {p : Piece} {ps : List Piece}

theorem Idle.cons (open' : p.isAttempt = false) (first : Idle w kind [p]) (second : Idle w kind ps) :
    Idle w kind (p :: ps) := by
  intro m
  obtain ⟨known, loads, vars⟩ := first m
  rw [← List.singleton_append, runPieces_append (List.forall_mem_singleton.2 open')]
  rcases ran : runPieces w m [p] with ⟨_ | _ | _ | _, m'⟩
  · rw [ran] at loads vars
    obtain ⟨known', loads', vars'⟩ := second m'
    exact ⟨known', loads'.trans loads, fun v hv => (vars' v hv).trans (vars v hv)⟩
  all_goals
    rw [ran] at known loads vars
    exact ⟨known, loads, vars⟩

theorem idle_other {ts : List Token} (own : isForeign ts = false) : Idle w kind [.statement (.other ts)] := by
  intro m
  rw [runPieces_single rfl]
  simp only [Piece.run, Deed.run, own, Bool.false_eq_true, if_false]
  split
  · exact ⟨nofun, rfl, fun _ _ => rfl⟩
  · split <;> exact ⟨nofun, rfl, fun _ _ => rfl⟩

theorem idle_constant (name value : String) : Idle w kind [.statement (.constant name value)] :=
  fun _ => ⟨nofun, rfl, fun _ _ => rfl⟩

theorem idle_respond (status body : String) : Idle w kind [.statement (.respond status body)] :=
  fun _ => ⟨nofun, rfl, fun _ _ => rfl⟩

theorem idle_setNamed {key : String} (name : String) (other : ¬ kind key) :
    Idle w kind [.statement (.setNamed key name)] := by
  intro m
  rw [runPieces_single rfl]
  simp only [Piece.run, Deed.run]
  split
  · refine ⟨nofun, rfl, fun v hv => ?_⟩
    have differs : v ≠ key := fun same => other (same ▸ hv)
    simp [Variables.set, differs]
  · exact ⟨nofun, rfl, fun _ _ => rfl⟩

theorem idle_if {head : List Token} (condition : keyword? head = some "if") (own : isForeign head = false)
    (inside : Idle w kind ps) : Idle w kind [.block head ps] := by
  intro m
  have alone : (Piece.block head ps).isAttempt = false := by simp [Piece.isAttempt, condition]
  rw [runPieces_single alone]
  simp only [Piece.run, condition, own, Option.some.injEq, String.reduceEq, if_false, Bool.not_false, and_self, if_true]
  split
  · exact inside m
  all_goals exact ⟨nofun, rfl, fun _ _ => rfl⟩

end

/-! ## What a run leads to -/

/-- whether it is known how a run ends, and with a memory of the kind `P`; in a world that lets everything pass it comes
to its end with one of the kind `Q` -/
structure Leads (w : World) (P Q : Memory → Prop) (r : Ending × Memory) : Prop where
  known : r.1 ≠ .unknown
  always : P r.2
  passed : w.LetsPass → r.1 = .next ∧ Q r.2

section

variable {P Q P' Q' : Memory → Prop} {r : Ending × Memory}

/-- **Runs in sequence.** The second one starts from what the first one leads to, unless that ends the run. -/
theorem Leads.andThen {go : Memory → Ending × Memory} (first : Leads w P Q r) (early : ∀ m, P m → P' m)
    (second : ∀ m, P m → (w.LetsPass → Q m) → Leads w P' Q' (go m)) : Leads w P' Q' (andThen r go) := by
  obtain ⟨known, always, passed⟩ := first
  rcases r with ⟨_ | _ | _ | _, m⟩
  · exact second m always fun passes => (passed passes).2
  · exact ⟨known, early m always, fun passes => nomatch (passed passes).1⟩
  · exact ⟨known, early m always, fun passes => nomatch (passed passes).1⟩
  · exact absurd rfl known

/-- Pieces that leave modules alone lead to what depends on nothing else. -/
theorem Idle.leads {kind : String → Prop} {m : Memory} {ps : List Piece} (idle : Idle w kind ps)
    (keeps : ∀ m', m'.loads = m.loads → (∀ v, kind v → m'.vars v = m.vars v) → P m' ∧ (w.LetsPass → Q m'))
    (ends : w.LetsPass → (runPieces w m ps).1 = .next) : Leads w P Q (runPieces w m ps) := by
  obtain ⟨known, loads, vars⟩ := idle m
  obtain ⟨always, passed⟩ := keeps _ loads vars
  exact ⟨known, always, fun passes => ⟨ends passes, passed passes⟩⟩

end

/-! ## Assignments -/

/-- the variables after some assignments -/
def Variables.setAll (vars : Variables) (es : List (String × String)) : Variables :=
  es.foldl (fun vars e => vars.set e.1 e.2) vars

/-- **Of several assignments to a variable the last one counts.** -/
theorem setAll_eq (vars : Variables) (es : List (String × String)) (v : String) :
    vars.setAll es v = (es.reverse.lookup v).or (vars v) := by
  induction es generalizing vars with
  | nil => rfl
  | cons e es ih =>
    obtain ⟨key, value⟩ := e
    have first : vars.setAll ((key, value) :: es) = (vars.set key value).setAll es := rfl
    rw [first, ih, List.reverse_cons, List.lookup_append, Option.or_assoc]
    congr 1
    by_cases same : v = key
    · simp [Variables.set, same]
    · have other : (v == key) = false := beq_eq_false_iff_ne.2 same
      simp [Variables.set, List.lookup_cons, same, other]

/-- Assignments change nothing but the variables. -/
theorem runPieces_sets (m : Memory) (es : List (String × String)) :
    runPieces w m (es.map fun e => .statement (.set e.1 e.2)) = (.next, { m with vars := m.vars.setAll es }) := by
  induction es generalizing m with
  | nil => rfl
  | cons e es ih =>
    rw [List.map_cons, runPieces]
    exact ih { m with vars := m.vars.set e.1 e.2 }

/-- **A module that is forgotten first runs anew.** -/
theorem runPieces_load (m : Memory) (path : String) :
    runPieces w m [.statement (.forget path), .statement (.load path)] =
      (if (w.runModule m.loads path m.vars).1 then .next else .thrown,
        { m with vars := (w.runModule m.loads path m.vars).2, cached := path :: m.cached.filter (· != path),
                 loads := m.loads ++ [(path, m.vars)] }) := by
  have fresh : path ∉ m.cached.filter (· != path) := by simp
  have forgets : (Piece.statement (.forget path)).run w m =
    (.next, { m with cached := m.cached.filter (· != path) }) := rfl
  rw [runPieces, forgets]
  simp only [andThen]
  rw [runPieces_single rfl, Piece.run, Deed.run, if_neg fresh]

end HookFlow.Script
