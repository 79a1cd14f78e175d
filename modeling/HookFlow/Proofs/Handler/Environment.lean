import HookFlow.Proofs.Handler.Outline
import HookFlow.Proofs.Script.Run
/-!
The environment that the steps of a handler run in.

All steps share one environment. A step sets the variables of its own inputs before its module runs, and nothing takes
them away again, so a module finds the inputs of its own step and of all steps before it; where several of them name
one variable, the last one counts. A token that one step asks for is there for every later step.

Results:
- `stepPieces_leads`: what one step adds to what the modules have found.
- `steps_leads`: the same for all steps that are reached.
- `deliver_seen`: what the modules find during a delivery.
-/

namespace HookFlow.Handler

open Text Script

/-! ## Inputs in the environment -/

/-- whether a variable stands for an input -/
def IsInput (key : String) : Prop := "INPUT_".toList <+: key.toList

/-- whether no module touches the variables of inputs -/
def KeepsInputs (w : World) : Prop :=
  ∀ before path vars key, IsInput key → (w.runModule before path vars).2 key = vars key

/-- what some steps export, in order -/
def exported (token placeholder : String) (steps : List Step) : List (String × String) :=
  steps.flatMap fun s => s.inputs.map fun e => (inputVariable e.1, substituted token placeholder e.2)

theorem exported_append (token placeholder : String) (steps more : List Step) :
    exported token placeholder (steps ++ more) =
      exported token placeholder steps ++ exported token placeholder more := List.flatMap_append

/-- what the modules of some steps have found and left: the variable of an input holds what was last exported to it -/
structure Seen (token placeholder : String) (steps : List Step) (m : Memory) : Prop where
  count : m.loads.length = steps.length
  found : ∀ k path vars, m.loads[k]? = some (path, vars) →
    (∃ s, steps[k]? = some s ∧ path = "../" ++ s.filename) ∧
      ∀ key, IsInput key → vars key = (exported token placeholder (steps.take (k + 1))).reverse.lookup key
  left : ∀ key, IsInput key → m.vars key = (exported token placeholder steps).reverse.lookup key

section

variable {w : World} {token placeholder : String}

theorem Seen.idle {done : List Step} {m m' : Memory} (seen : Seen token placeholder done m)
    (loads : m'.loads = m.loads) (vars : ∀ key, IsInput key → m'.vars key = m.vars key) :
    Seen token placeholder done m' :=
  ⟨loads ▸ seen.count, loads ▸ seen.found, fun key hk => (vars key hk).trans (seen.left key hk)⟩

/-- A module that runs with the exports of its step set finds them on top of all earlier ones. -/
theorem Seen.step {done : List Step} {m m' : Memory} (seen : Seen token placeholder done m) (s : Step)
    (loads : m'.loads = m.loads ++ [("../" ++ s.filename, m.vars.setAll (exported token placeholder [s]))])
    (vars : ∀ key, IsInput key → m'.vars key = m.vars.setAll (exported token placeholder [s]) key) :
    Seen token placeholder (done ++ [s]) m' := by
  have now (key : String) (hk : IsInput key) : m.vars.setAll (exported token placeholder [s]) key =
      (exported token placeholder (done ++ [s])).reverse.lookup key := by
    rw [setAll_eq, seen.left key hk, exported_append, List.reverse_append, List.lookup_append]
  refine ⟨by simp [loads, seen.count], fun k path vars' there => ?_, fun key hk => (vars key hk).trans (now key hk)⟩
  rw [loads] at there
  rcases Nat.lt_or_ge k m.loads.length with earlier | last
  · -- an earlier module found what it found
    rw [List.getElem?_append_left earlier] at there
    obtain ⟨⟨s', own, named⟩, found⟩ := seen.found k path vars' there
    have within : k < done.length := seen.count ▸ earlier
    refine ⟨⟨s', by rw [List.getElem?_append_left within, own], named⟩, fun key hk => ?_⟩
    rw [found key hk, List.take_append_of_le_length within]
  · -- the new module comes last
    rw [List.getElem?_append_right last] at there
    have short : k - m.loads.length < 1 := (List.getElem?_eq_some_iff.1 there).1
    obtain rfl : k = m.loads.length := by omega
    simp only [Nat.sub_self, List.getElem?_cons_zero, Option.some.injEq, Prod.mk.injEq] at there
    obtain ⟨rfl, rfl⟩ := there
    have whole : (done ++ [s]).take (m.loads.length + 1) = done ++ [s] :=
      List.take_of_length_le (by simp [seen.count])
    refine ⟨⟨s, by simp [seen.count], rfl⟩, fun key hk => ?_⟩
    rw [whole]
    exact now key hk

/-! ## One step, and all steps -/

theorem stepPieces_eq (s : Step) :
    stepPieces token placeholder s = (exported token placeholder [s]).map (fun e => .statement (.set e.1 e.2)) ++
      ([.statement (.forget ("../" ++ s.filename)), .statement (.load ("../" ++ s.filename))] ++
        [.statement (.other (logTokens ("step " ++ s.name ++ " complete")))]) := by
  simp [stepPieces, exported]

theorem stepPieces_open (s : Step) : ∀ p ∈ stepPieces token placeholder s, p.isAttempt = false := by
  intro p hp
  simp only [stepPieces, List.mem_append, List.mem_map, List.mem_cons, List.not_mem_nil, or_false] at hp
  rcases hp with ⟨e, -, rfl⟩ | rfl | rfl | rfl <;> rfl

theorem other_passed {ts : List Token} (own : isForeign ts = false) (goesOn : keyword? ts ≠ some "return")
    (passes : w.LetsPass) (m : Memory) : (Piece.statement (.other ts)).run w m = (.next, m) := by
  simp [Piece.run, Deed.run, own, goesOn, passes.statements ts]

/-- The module of a step runs anew, with the exports of its step set. -/
theorem load_leads {done : List Step} {m : Memory} (seen : Seen token placeholder done m) (s : Step)
    (modules : KeepsInputs w) :
    Leads w (Seen token placeholder (done ++ [s])) (Seen token placeholder (done ++ [s]))
      (runPieces w { m with vars := m.vars.setAll (exported token placeholder [s]) }
        [.statement (.forget ("../" ++ s.filename)), .statement (.load ("../" ++ s.filename))]) := by
  rw [runPieces_load]
  refine ⟨?_, ?_, fun passes => ⟨if_pos (passes.modules _ _ _), ?_⟩⟩
  · split <;> exact nofun
  all_goals exact seen.step s rfl fun key hk => modules _ _ _ key hk

/-- **One step.** Its module finds the exports of the step on top of all earlier ones. -/
theorem stepPieces_leads {done : List Step} {m : Memory} (seen : Seen token placeholder done m) (s : Step)
    (modules : KeepsInputs w) :
    Leads w (Seen token placeholder (done ++ [s])) (Seen token placeholder (done ++ [s]))
      (runPieces w m (stepPieces token placeholder s)) := by
  have open' : ∀ p ∈ (exported token placeholder [s]).map (fun e => Piece.statement (.set e.1 e.2)),
      p.isAttempt = false := by
    intro p hp
    obtain ⟨e, -, rfl⟩ := List.mem_map.1 hp
    rfl
  have own : isForeign (logTokens ("step " ++ s.name ++ " complete")) = false := by simp [isForeign, logTokens]
  have goesOn : keyword? (logTokens ("step " ++ s.name ++ " complete")) ≠ some "return" := by
    simp [keyword?, logTokens]
  have notes : Idle w IsInput [.statement (.other (logTokens ("step " ++ s.name ++ " complete")))] := idle_other own
  rw [stepPieces_eq, runPieces_append open', runPieces_sets, andThen_next, runPieces_append (by simp)]
  refine (load_leads seen s modules).andThen (fun _ held => held) fun m₁ seen₁ _ => notes.leads ?_ ?_
  · exact fun m₂ loads vars => ⟨seen₁.idle loads vars, fun _ => seen₁.idle loads vars⟩
  · intro passes
    rw [runPieces_cons (other_passed own goesOn passes m₁)]
    rfl

/-- **All steps.** The steps that are reached add their exports one after the other. -/
theorem steps_leads {done : List Step} {m : Memory} (seen : Seen token placeholder done m) (rest : List Step)
    (modules : KeepsInputs w) :
    Leads w (fun m' => ∃ n, Seen token placeholder (done ++ rest.take n) m') (Seen token placeholder (done ++ rest))
      (runPieces w m (rest.flatMap (stepPieces token placeholder))) := by
  induction rest generalizing done m with
  | nil =>
    rw [List.append_nil]
    exact ⟨nofun, ⟨0, by simpa using seen⟩, fun _ => ⟨rfl, seen⟩⟩
  | cons s rest ih =>
    rw [List.flatMap_cons, runPieces_append (stepPieces_open s)]
    refine (stepPieces_leads seen s modules).andThen (fun _ held => ⟨1, held⟩) fun m₁ seen₁ _ => ?_
    obtain ⟨known, ⟨n, some⟩, passed⟩ := ih seen₁
    rw [List.append_assoc] at some passed
    exact ⟨known, ⟨n + 1, some⟩, passed⟩

/-! ## A delivery -/

/-- whether some tokens are the condition of an `if` that leaves the environment alone -/
def IsCheck (condition : List Token) : Prop := keyword? condition = some "if" ∧ isForeign condition = false

instance (condition : List Token) : Decidable (IsCheck condition) := inferInstanceAs (Decidable (_ ∧ _))

theorem unsigned_check : IsCheck unsigned := by
  rw [unsigned, code_ofList]
  decide

theorem unwanted_check : IsCheck unwanted := by decide

theorem ignored_check : IsCheck ignored := by
  rw [ignored, code_ofList]
  decide

/-- whether a statement leaves the environment alone and is followed by the next one -/
def IsAside (ts : List Token) : Prop := isForeign ts = false ∧ keyword? ts ≠ some "return"

instance (ts : List Token) : Decidable (IsAside ts) := inferInstanceAs (Decidable (_ ∧ _))

theorem actor_aside : IsAside actorTokens := by
  rw [actorTokens, code_ofList, code_ofList, code_ofList]
  decide

theorem payload_aside : IsAside (code "fs.writeFileSync(eventFile, JSON.stringify(req.body))") := by
  rw [code_ofList]
  decide

theorem note_aside : IsAside (code "context.log('wrote event JSON, invoking steps')") := by
  rw [code_ofList]
  decide

theorem refusal_open {condition : List Token} (check : IsCheck condition) (status body : String) :
    (refusal condition status body).isAttempt = false := by
  simp [refusal, Piece.isAttempt, check.1]

theorem refusal_idle {condition : List Token} (check : IsCheck condition) (status body : String) :
    Idle w IsInput [refusal condition status body] := by
  have ends : isForeign (code "return") = false := by decide
  exact idle_if check.1 check.2 (.cons rfl (idle_respond status body) (idle_other ends))

/-- A check that does not hold is passed. -/
theorem refusal_passed {condition : List Token} (check : IsCheck condition) (passes : w.LetsPass)
    (status body : String) (m : Memory) : (refusal condition status body).run w m = (.next, m) := by
  simp [refusal, Piece.run, check.1, check.2, passes.checks]

theorem checkPieces_open (eventPath : String) : ∀ p ∈ checkPieces eventPath, p.isAttempt = false := by
  simp only [checkPieces, List.forall_mem_cons]
  exact ⟨refusal_open unsigned_check _ _, refusal_open unwanted_check _ _, rfl, refusal_open ignored_check _ _, rfl,
    rfl, rfl, rfl, nofun⟩

/-- The checks leave the inputs alone. -/
theorem checkPieces_idle (eventPath : String) : Idle w IsInput (checkPieces eventPath) := by
  have path : ¬ IsInput "GITHUB_EVENT_PATH" := by
    intro input
    exact absurd (List.isPrefixOf_iff_prefix.2 input) (by decide)
  have payload := Idle.cons (w := w) rfl (idle_constant "eventFile" eventPath) (.cons rfl (idle_other payload_aside.1)
    (.cons rfl (idle_setNamed "eventFile" path) (idle_other note_aside.1)))
  have later := Idle.cons (w := w) rfl (idle_other actor_aside.1)
    (.cons (refusal_open ignored_check "200" "ignored actor") (refusal_idle ignored_check _ _) payload)
  exact .cons (refusal_open unsigned_check _ _) (refusal_idle unsigned_check _ _)
    (.cons (refusal_open unwanted_check _ _) (refusal_idle unwanted_check _ _) later)

theorem checkPieces_passed (eventPath : String) (passes : w.LetsPass) (m : Memory) :
    (runPieces w m (checkPieces eventPath)).1 = .next := by
  rw [checkPieces, runPieces_cons (refusal_passed unsigned_check passes _ _ m),
    runPieces_cons (refusal_passed unwanted_check passes _ _ m),
    runPieces_cons (other_passed actor_aside.1 actor_aside.2 passes m),
    runPieces_cons (refusal_passed ignored_check passes _ _ m)]
  let named : Memory := { m with texts := ("eventFile", eventPath) :: m.texts }
  let left : Memory := { named with vars := m.vars.set "GITHUB_EVENT_PATH" eventPath }
  have names : (Piece.statement (.constant "eventFile" eventPath)).run w m = (.next, named) := rfl
  have sets : (Piece.statement (.setNamed "GITHUB_EVENT_PATH" "eventFile")).run w named = (.next, left) := rfl
  rw [runPieces_cons names, other, runPieces_cons (other_passed payload_aside.1 payload_aside.2 passes named),
    runPieces_cons sets, other, runPieces_cons (other_passed note_aside.1 note_aside.2 passes left)]
  rfl

/-- the pieces inside the `try` block of a handler -/
def attemptPieces (token : String) (options : Options) (f : Flow) : List Piece :=
  checkPieces options.eventPath ++ f.steps.flatMap (stepPieces token options.placeholder) ++
    [.statement (.respond "200" "workflow complete")]

/-- the pieces that answer when a step throws -/
def failurePieces : List Piece :=
  [other "context.log(e)", other "context.log(e.stack)", .statement (.other failureTokens)]

theorem failurePieces_idle : Idle w IsInput failurePieces := by
  have first : isForeign (code "context.log(e)") = false := by decide
  have second : isForeign (code "context.log(e.stack)") = false := by decide
  have answer : isForeign failureTokens = false := by decide
  exact .cons rfl (idle_other first) (.cons rfl (idle_other second) (idle_other answer))

theorem attemptPieces_leads (options : Options) (f : Flow) (modules : KeepsInputs w) {m : Memory}
    (seen : Seen token options.placeholder [] m) :
    Leads w (fun m' => ∃ n, Seen token options.placeholder (f.steps.take n) m')
      (Seen token options.placeholder f.steps) (runPieces w m (attemptPieces token options f)) := by
  have open' : ∀ p ∈ f.steps.flatMap (stepPieces token options.placeholder), p.isAttempt = false := by
    intro p hp
    obtain ⟨s, -, inside⟩ := List.mem_flatMap.1 hp
    exact stepPieces_open s p inside
  have checks : Leads w (Seen token options.placeholder []) (Seen token options.placeholder [])
      (runPieces w m (checkPieces options.eventPath)) :=
    (checkPieces_idle options.eventPath).leads
      (fun _ loads vars => ⟨seen.idle loads vars, fun _ => seen.idle loads vars⟩)
      fun passes => checkPieces_passed options.eventPath passes m
  rw [attemptPieces, List.append_assoc, runPieces_append (checkPieces_open options.eventPath)]
  refine checks.andThen (fun _ held => ⟨0, held⟩) fun m₁ seen₁ _ => ?_
  rw [runPieces_append open']
  refine (steps_leads seen₁ f.steps modules).andThen (fun _ held => held) fun m₂ some all => ?_
  exact ⟨nofun, some, fun passes => ⟨rfl, all passes⟩⟩

theorem exported?_outline (secret token : String) (options : Options) (f : Flow) :
    exported? (outline secret token options f) = some
      [.block (code "try") (attemptPieces token options f), .block (code "catch (e)") failurePieces] := by
  have gate : code "const filterEvent = (req) =>" ≠ code "module.exports = async function (context, req)" := by
    rw [code_ofList, code_ofList]
    decide
  simp [exported?, outline, other, filterPiece, gate, attemptPieces, failurePieces]

/-- **What the modules find during a delivery.** -/
theorem deliver_seen (secret token : String) (options : Options) {f : Flow} (named : f.IsOneLine)
    (modules : KeepsInputs w) {vars : Variables} (clean : ∀ key, IsInput key → vars key = none) :
    ∃ ending m, deliver? w vars (ofFlow secret token options f).source = some (ending, m) ∧ ending ≠ .unknown ∧
      (∃ n, Seen token options.placeholder (f.steps.take n) m) ∧
      (w.LetsPass → ending = .next ∧ Seen token options.placeholder f.steps m) := by
  have first : Seen token options.placeholder [] { vars } := ⟨rfl, nofun, fun key hk => clean key hk⟩
  have outlined : outline? (ofFlow secret token options f).source = some (outline secret token options f) :=
    Builds.outline? (ofFlow_tokens secret token options named) (tokens_builds secret token options f)
  have tries : keyword? (code "try") = some "try" := by decide
  have catches : keyword? (code "catch (e)") = some "catch" := by decide
  have delivered : deliver? w vars (ofFlow secret token options f).source =
      some (runPieces w { vars } [.block (code "try") (attemptPieces token options f),
        .block (code "catch (e)") failurePieces]) := by
    simp only [deliver?, outlined, exported?_outline, Option.bind_eq_bind, Option.bind_some]
    rfl
  rw [runPieces_attempt tries catches] at delivered
  obtain ⟨known, some, all⟩ := attemptPieces_leads options f modules first
  rcases attempted : runPieces w { vars } (attemptPieces token options f) with ⟨_ | _ | _ | _, m⟩
  all_goals rw [attempted] at delivered some known all
  · exact ⟨.next, m, delivered, known, some, all⟩
  · exact ⟨.returned, m, delivered, known, some, all⟩
  · -- what was thrown is answered without another module
    obtain ⟨answered, loads, kept⟩ := failurePieces_idle (w := w) m
    obtain ⟨n, some⟩ := some
    exact ⟨(runPieces w m failurePieces).1, (runPieces w m failurePieces).2, delivered, answered,
      ⟨n, some.idle loads kept⟩, fun passes => nomatch (all passes).1⟩
  · exact absurd rfl known

end

/-- **Inputs stay.** Take a flow whose names stay on their lines, and an environment without inputs that only the
handler adds inputs to. During a delivery the modules run in the order of their steps, all of them if the checks are
passed and nothing throws. The module of a step finds the inputs of its own step; every other variable of an input
holds what an earlier step exported to it last, and is missing if none did. -/
theorem deliver_inputs (secret token : String) (options : Options) {f : Flow} (named : f.IsOneLine) {w : World}
    (modules : KeepsInputs w) {vars : Variables} (clean : ∀ key, IsInput key → vars key = none) :
    ∃ ending m, deliver? w vars (ofFlow secret token options f).source = some (ending, m) ∧ ending ≠ .unknown ∧
      (∀ k path found, m.loads[k]? = some (path, found) →
        ∃ s, f.steps[k]? = some s ∧ path = "../" ++ s.filename ∧ ∀ key, IsInput key →
          found key = ((exported token options.placeholder [s]).reverse.lookup key).or
            ((exported token options.placeholder (f.steps.take k)).reverse.lookup key)) ∧
      (w.LetsPass → m.loads.length = f.steps.length) := by
  obtain ⟨ending, m, delivered, known, ⟨n, seen⟩, all⟩ := deliver_seen secret token options named modules clean
  refine ⟨ending, m, delivered, known, fun k path found loaded => ?_, fun passes => (all passes).2.count⟩
  obtain ⟨⟨s, own, path_eq⟩, vars_eq⟩ := seen.found k path found loaded
  have reached : k < n := by
    have short := (List.getElem?_eq_some_iff.1 own).1
    simp only [List.length_take] at short
    omega
  have inside : f.steps[k]? = some s := by rwa [List.getElem?_take_of_lt reached] at own
  refine ⟨s, inside, path_eq, fun key hk => ?_⟩
  have split : (f.steps.take n).take (k + 1) = f.steps.take k ++ [s] := by
    rw [List.take_take, Nat.min_eq_left reached, List.take_add_one, inside]
    rfl
  rw [vars_eq key hk, split, exported_append, List.reverse_append, List.lookup_append]

/-! A delivery that passes all checks, before any variable is set, to modules that do nothing. -/

def calmWorld : World where
  holds _ := some false
  throws _ := false
  runModule _ _ vars := (true, vars)

theorem calmWorld_passes : calmWorld.LetsPass := ⟨fun _ => rfl, fun _ => rfl, fun _ _ _ => rfl⟩

theorem calmWorld_keeps : KeepsInputs calmWorld := fun _ _ _ _ _ => rfl

def noVariables : Variables := fun _ => none

theorem noVariables_clean (key : String) (_ : IsInput key) : noVariables key = none := rfl

theorem deliver_inputs_release :
    ∃ ending m, deliver? calmWorld noVariables (ofFlow "s3cr\\t" "t0ken" {} release).source = some (ending, m) ∧
      m.loads.length = 2 ∧ ∀ path found, m.loads[1]? = some (path, found) →
        found "INPUT_DRY-RUN" = some "\"yes\"; // no" ∧ found "INPUT_REPO_TOKEN" = some "t0ken" := by
  have named : release.IsOneLine := by decide
  obtain ⟨ending, m, delivered, -, each, all⟩ :=
    deliver_inputs "s3cr\\t" "t0ken" {} named calmWorld_keeps noVariables_clean
  refine ⟨ending, m, delivered, all calmWorld_passes, fun path found loaded => ?_⟩
  obtain ⟨s, second, -, holds⟩ := each 1 path found loaded
  cases second
  have dry : IsInput "INPUT_DRY-RUN" := List.isPrefixOf_iff_prefix.1 (by decide)
  have token : IsInput "INPUT_REPO_TOKEN" := List.isPrefixOf_iff_prefix.1 (by decide)
  rw [holds _ dry, holds _ token]
  decide

/-- a workflow whose first step needs the token and whose second step has no inputs -/
def leaking : Flow where
  name := "ci.yml"
  triggers := []
  steps := [
    { name := "a-0", source := "run()", inputs := [("token", "$\x7b\x7b secrets.GITHUB_TOKEN \x7d\x7d")] },
    { name := "a-1", source := "other()" }]

/-- The second step has no inputs, and its module finds the token of the first one. -/
theorem deliver_inputs_leaking :
    leaking.steps[1]?.map Step.inputs = some [] ∧
      ∃ ending m path found,
        deliver? calmWorld noVariables (ofFlow "s3cret" "t0ken" {} leaking).source = some (ending, m) ∧
        m.loads[1]? = some (path, found) ∧ found "INPUT_TOKEN" = some "t0ken" := by
  have named : leaking.IsOneLine := by decide
  obtain ⟨ending, m, delivered, -, -, all⟩ :=
    deliver_seen "s3cret" "t0ken" {} named calmWorld_keeps noVariables_clean
  obtain ⟨-, seen⟩ := all calmWorld_passes
  have second : 1 < m.loads.length := seen.count ▸ (by decide)
  have input : IsInput "INPUT_TOKEN" := List.isPrefixOf_iff_prefix.1 (by decide)
  have found := (seen.found 1 _ _ (List.getElem?_eq_getElem second)).2 "INPUT_TOKEN" input
  refine ⟨rfl, ending, m, _, _, delivered, List.getElem?_eq_getElem second, found.trans ?_⟩
  decide

end HookFlow.Handler
