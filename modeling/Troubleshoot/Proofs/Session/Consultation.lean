import Troubleshoot.Proofs.Catalogue.Lookup
import Troubleshoot.Proofs.Fact.Copy
import Troubleshoot.Proofs.Rule.Sequence
import Troubleshoot.Proofs.Session.Registration
import Troubleshoot.Proofs.Session.Rules

namespace Troubleshoot

variable {υ : Type}

namespace Link

-- The facts that a link needs, in the order in which they are bound.
def registrations (l : Link) : List Registration :=
  l.guard.questions.map .question ++ l.confirmations.map fun (k, c) => .confirmation k c

theorem bind_eq_registerAll (b : Bindings υ) (l : Link) : l.bind b = b.registerAll l.registrations := by
  cases l <;>
    simp [bind, Bindings.questions, Bindings.registerAll, registrations, confirmations, guard,
      List.foldlM_append, List.foldlM_map, Bindings.register]

end Link

namespace KnowledgeBase

def registrations (kb : KnowledgeBase) : List Registration :=
  kb.links.flatMap Link.registrations

-- How many priorities the links of a knowledge base take.
def demand (kb : KnowledgeBase) : Nat :=
  Registration.taken [] kb.registrations

-- The questions that some guard names, by their ids.
def asked (kb : KnowledgeBase) : List String :=
  kb.links.flatMap (·.guard.questions)

-- What is asked about solutions, by the ids of the facts.
def confirmations (kb : KnowledgeBase) : List (String × Solution × Confirmation) :=
  kb.links.flatMap fun l => l.confirmations.map fun (k, c) => (c.factId k.id, k, c)

def confirmation? (kb : KnowledgeBase) (id : String) : Option (Solution × Confirmation) :=
  latest? kb.confirmations id

end KnowledgeBase

theorem Bindings.compile_eq_registerAll (b : Bindings υ) :
    b.compile = b.registerAll b.knowledge.registrations := by
  have hl (links : List Link) : links.foldlM Link.bind b = b.registerAll (links.flatMap Link.registrations) := by
    induction links generalizing b
    case nil => rfl
    case cons l links ih =>
      rw [List.foldlM_cons, List.flatMap_cons, registerAll_append, l.bind_eq_registerAll]
      exact bind_congr ih
  exact hl _

-- The facts that a knowledge base needs are bound if there are priorities for all of them.
theorem Bindings.compile_empty (kb : KnowledgeBase) (respondent : Respondent υ) (settings : Settings) :
    (Bindings.empty kb respondent settings).compile =
      if settings.Leaves kb.demand then .ok ((Bindings.empty kb respondent settings).enterAll kb.registrations)
      else .error .priority :=
  (compile_eq_registerAll _).trans (registerAll_empty ..)

namespace Advisor

variable {ε ε' α β : Type} {a b : Advisor υ}

@[simp] theorem take_get {f : Advisor υ → Step υ ε α} : a.take (get >>= f) = a.take (f a) :=
  rfl

@[simp] theorem take_set : a.take (set b : Step υ ε PUnit) = .ok (.ok (), b) :=
  rfl

@[simp] theorem take_throw {e : ε} : a.take (throw e : Step υ ε α) = .ok (.error e, a) :=
  rfl

-- Nothing is left of an advisor whose step overflows.
@[simp] theorem take_lift {x : Except Overflow β} {f : β → Step υ ε α} :
    a.take (liftM x >>= f) = x >>= fun v => a.take (f v) := by
  cases x <;> rfl

theorem take_bind_of_ok {x : Step υ ε α} {f : α → Step υ ε β} {v : α} (h : a.take x = .ok (.ok v, b)) :
    a.take (x >>= f) = b.take (f v) := by
  have hx : x a = .ok (.ok v, b) := h
  simp only [take, ExceptT.run, StateT.run, bind, ExceptT.bind, ExceptT.mk, StateT.bind, hx, Except.bind,
    ExceptT.bindCont]

theorem take_bind_of_error {x : Step υ ε α} {f : α → Step υ ε β} {e : Overflow} (h : a.take x = .error e) :
    a.take (x >>= f) = .error e := by
  have hx : x a = .error e := h
  simp only [take, ExceptT.run, StateT.run, bind, ExceptT.bind, ExceptT.mk, StateT.bind, hx, Except.bind]

theorem take_adapt_of_ok {x : Step υ ε α} {g : ε → ε'} {v : α} (h : a.take x = .ok (.ok v, b)) :
    a.take (x.adapt g) = .ok (.ok v, b) := by
  have hd : a.take (x.adapt g) = a.take x >>= fun p => pure (p.1.mapError g, p.2) := rfl
  rw [hd, h]
  rfl

end Advisor

theorem Binding.id_fact (kb : KnowledgeBase) (r : Respondent υ) (id : String) (b : Binding) :
    (b.fact kb r id).id = id := by
  obtain ⟨kind, _⟩ := b
  cases kind <;> rfl

-- In whatever order the bound facts are added to a rule set, it has each under its id.
theorem Bindings.addAll_definitions {b : Bindings υ} {fs : List (Fact (World υ))} (h : fs.Perm b.definitions) :
    Facts.addAll ∅ fs = b.facts := by
  refine Facts.addAll_of_perm (fun e he => ?_) h
  rw [facts, Table.entries_map] at he
  obtain ⟨⟨id, binding⟩, _, rfl⟩ := List.mem_map.mp he
  exact binding.id_fact ..

-- What there is once facts are bound and the rules are made.
def Prepared.on (b : Bindings υ) (lenient : Bool) : Prepared υ :=
  ⟨b, b.knowledge.rules, b.facts, .session, lenient⟩

namespace Prepared

-- None of the rules is refused.
theorem ofBindings_eq (b : Bindings υ) (lenient : Bool) :
    ofBindings b lenient b.knowledge.rules = .ok (.on b lenient) := by
  let start : RuleSet (World υ) := ⟨[], b.facts, .session, lenient⟩
  have hf : b.knowledge.rules.foldlM RuleSet.addRule start = .ok { start with rules := b.knowledge.rules } := by
    refine start.foldlM_addRule (fun r h => ?_) (fun r h c hc => ?_)
    · obtain ⟨l, _, _, rfl⟩ := KnowledgeBase.exists_link_of_mem_rules h
      exact l.name_rule_ne_empty
    · obtain ⟨l, _, _, rfl⟩ := KnowledgeBase.exists_link_of_mem_rules h
      exact Link.operators_known hc
  have hs : b.definitions.foldl RuleSet.addFact ((RuleSet.empty lenient).addOperator "containsOneOf" .containsOneOf) =
      start := by
    rw [RuleSet.foldl_addFact, RuleSet.addOperator, RuleSet.empty, Bindings.addAll_definitions (.refl _)]
    rfl
  have hp : ofBindings b lenient b.knowledge.rules =
      b.knowledge.rules.foldlM RuleSet.addRule start >>= fun s => .ok ⟨b, s⟩ := by rw [← hs]; rfl
  rw [hp, hf]
  rfl

theorem facts_preset (b : Bindings υ) (id : String) (value : Json) :
    (b.preset id value).facts = b.facts.insert id (.constant id value b.sessionPriority) := by
  simp [Bindings.facts, Bindings.preset, Table.map_insert, Binding.fact]

theorem preset_on (b : Bindings υ) (lenient : Bool) (id : String) (value : Json) :
    (on b lenient).preset id value = on (b.preset id value) lenient := by
  have hf : (b.preset id value).fact? id = some (.constant id value b.sessionPriority) := by
    simp [Bindings.fact?, Bindings.preset, Table.find?_insert, Binding.fact]
  have ha : b.facts.add (.constant id value b.sessionPriority) = (b.preset id value).facts := (facts_preset ..).symm
  simp only [preset, on, hf, RuleSet.addFact, ha]
  rfl

end Prepared

namespace Bindings

theorem enterAll_keeps (rs : List Registration) (b : Bindings υ) :
    (b.enterAll rs).knowledge = b.knowledge ∧ (b.enterAll rs).respondent = b.respondent ∧
    (b.enterAll rs).sessionPriority = b.sessionPriority := by
  induction rs generalizing b
  case nil => exact ⟨rfl, rfl, rfl⟩
  case cons r rs ih => simpa [enterAll] using ih (b.enter r)

end Bindings

namespace Advisor

-- What a step that takes a knowledge base comes to. A knowledge base never keeps an advisor from being
-- prepared, unless it takes more priorities than there are.
theorem take_prepare (a : Advisor υ) (kb : KnowledgeBase) (respondent : Respondent υ) :
    a.take (prepare kb respondent) =
      if a.isPrepared then .ok (.error (.lifecycle .alreadyInitialized), a)
      else if a.settings.Valid then
        if a.settings.Leaves kb.demand then
          let b := (Bindings.empty kb respondent a.settings).enterAll kb.registrations
          .ok (.ok (), { a with prepared := some (.on b a.settings.allowUndefinedFacts) })
        else .error .priority
      else .ok (.error (.configuration a.settings.misordered), a) := by
  rw [prepare, take_get, isPrepared]
  by_cases hp : a.prepared.isSome
  case pos =>
    rw [if_pos hp, if_pos hp]
    exact take_throw
  case neg =>
    rw [if_neg hp, if_neg hp, Settings.validate]
    by_cases hv : a.settings.Valid
    case neg =>
      rw [if_neg hv, if_neg hv]
      exact take_throw
    case pos =>
      have hk : ((Bindings.empty kb respondent a.settings).enterAll kb.registrations).knowledge = kb :=
        (Bindings.enterAll_keeps ..).1
      have ho := Prepared.ofBindings_eq ((Bindings.empty kb respondent a.settings).enterAll kb.registrations)
      rw [hk] at ho
      rw [if_pos hv, if_pos hv, take_lift, Bindings.compile_empty]
      by_cases hl : a.settings.Leaves kb.demand
      case neg =>
        rw [if_neg hl, if_neg hl]
        rfl
      case pos =>
        rw [if_pos hl, if_pos hl]
        simp only [bind, Except.bind, ho, take_set]

theorem take_setFact (a : Advisor υ) (id : String) (value : Json) :
    a.take (setFact id value) =
      match a.prepared with
      | some p => .ok (.ok (), { a with prepared := some (p.preset id value) })
      | none => .ok (.error .notInitialized, a) := by
  rw [setFact, take_get]
  cases a.prepared <;> rfl

-- Answers are taken one after the other.
theorem take_setFacts (settings : Settings) (b : Bindings υ) (lenient : Bool) (presets : List (String × Json)) :
    (⟨settings, some (.on b lenient)⟩ : Advisor υ).take
        (presets.forM fun (id, value) => (setFact id value).adapt Failure.lifecycle) =
      let b := b.enterAll (presets.map fun (id, value) => .preset id value)
      .ok (.ok (), ⟨settings, some (.on b lenient)⟩) := by
  induction presets generalizing b
  case nil => rfl
  case cons e presets ih =>
    obtain ⟨id, value⟩ := e
    have hs : (⟨settings, some (.on b lenient)⟩ : Advisor υ).take (setFact id value) =
        .ok (.ok (), ⟨settings, some (.on (b.preset id value) lenient)⟩) := by
      rw [← Prepared.preset_on]
      exact take_setFact ..
    exact (take_bind_of_ok (take_adapt_of_ok hs)).trans (ih (b.preset id value))

end Advisor

-- All that is settled before a session starts.
structure Consultation (υ : Type) where
  settings : Settings
  knowledge : KnowledgeBase
  respondent : Respondent υ
  presets : List (String × Json)
  systemTypes : List String

namespace Consultation

variable {c : Consultation υ}

-- The advisor that is given the knowledge base, and then each answer beforehand.
def advisor (c : Consultation υ) : Except Overflow (Except Failure Unit × Advisor υ) :=
  (Advisor.new c.settings).take (Advisor.brief c.knowledge c.respondent c.presets)

def run (c : Consultation υ) (symptoms : List String) (user : υ) :
    Except Overflow (Except Failure (Diagnosis × World υ)) := do
  let (result, a) ← c.advisor
  return do
    result
    (a.run symptoms c.systemTypes user).mapError .lifecycle

def registrations (c : Consultation υ) : List Registration :=
  c.knowledge.registrations ++ c.presets.map fun (id, value) => .preset id value

-- The counter that gives out the priorities of questions and confirmations stays in 64 bits.
def Counted (c : Consultation υ) : Prop :=
  c.settings.Leaves (Registration.taken [] c.registrations)

instance (c : Consultation υ) : Decidable c.Counted :=
  inferInstanceAs (Decidable (Settings.Leaves _ _))

def bindings (c : Consultation υ) : Bindings υ :=
  (Bindings.empty c.knowledge c.respondent c.settings).enterAll c.registrations

def ruleSet (c : Consultation υ) : RuleSet (World υ) :=
  ⟨c.knowledge.rules, c.bindings.facts, .session, c.settings.allowUndefinedFacts⟩

-- No priority is given out for an answer of the caller.
theorem counted_iff : c.Counted ↔ c.settings.Leaves c.knowledge.demand := by
  rw [Counted, registrations, Registration.taken_append_presets, KnowledgeBase.demand]

def prepared (c : Consultation υ) : Prepared υ :=
  ⟨c.bindings, c.ruleSet⟩

def facts (c : Consultation υ) : Facts (World υ) :=
  c.bindings.facts.addAll (c.bindings.sessionFacts c.systemTypes)

def start (c : Consultation υ) (symptoms : List String) (user : υ) : Store (World υ) :=
  .start c.facts c.settings.allowUndefinedFacts (.start user symptoms)

-- The verdicts of a session and what it leaves behind. Rules are evaluated side by side if they have the
-- same priority.
def session (c : Consultation υ) (symptoms : List String) (user : υ) : List Verdict × Store (World υ) :=
  c.ruleSet.runGroups World.hear (Ranking.groups (·.priority) c.ruleSet.ordered) (c.start symptoms user)

theorem on_bindings (c : Consultation υ) : .on c.bindings c.settings.allowUndefinedFacts = c.prepared := by
  have hk : c.bindings.knowledge = c.knowledge := (Bindings.enterAll_keeps ..).1
  rw [Prepared.on, hk]
  rfl

theorem bindings_eq_enterAll (c : Consultation υ) :
    c.bindings = ((Bindings.empty c.knowledge c.respondent c.settings).enterAll c.knowledge.registrations).enterAll
      (c.presets.map fun (id, value) => .preset id value) :=
  List.foldl_append ..

theorem advisor_eq (hv : c.settings.Valid) :
    c.advisor = if c.Counted then .ok (.ok (), ⟨c.settings, some c.prepared⟩) else .error .priority := by
  have hp := Advisor.take_prepare ⟨c.settings, none⟩ c.knowledge c.respondent
  rw [if_neg nofun, if_pos hv] at hp
  rw [advisor, Advisor.brief, Advisor.new, if_congr counted_iff rfl rfl]
  by_cases hl : c.settings.Leaves c.knowledge.demand
  case pos =>
    rw [if_pos hl] at hp ⊢
    rw [Advisor.take_bind_of_ok hp, ← on_bindings, bindings_eq_enterAll]
    exact Advisor.take_setFacts ..
  case neg =>
    rw [if_neg hl] at hp ⊢
    exact Advisor.take_bind_of_error hp

-- A session is held and comes to something, unless the advisor runs out of priorities before.
structure Ends (c : Consultation υ) (symptoms : List String) (user : υ) (P : Diagnosis → World υ → Prop) : Prop where
  held : c.Counted → ∃ d w, c.run symptoms user = .ok (.ok (d, w)) ∧ P d w
  overflows : ¬c.Counted → c.run symptoms user = .error .priority

-- The verdicts of a session in which one rule is evaluated after the other, and what it leaves behind.
def course (c : Consultation υ) (symptoms : List String) (user : υ) : List Verdict × Store (World υ) :=
  c.ruleSet.judgeAll World.hear c.knowledge.rules (c.start symptoms user)

def diagnosis (c : Consultation υ) (symptoms : List String) (user : υ) : Diagnosis :=
  let (verdicts, store) := c.course symptoms user
  ⟨store.world.firings, verdicts, store.observed, store.world.memory⟩

theorem run_eq (hv : c.settings.Valid) (symptoms : List String) (user : υ) :
    c.run symptoms user =
      if c.Counted then .ok (.ok (c.prepared.run symptoms c.systemTypes user)) else .error .priority := by
  rw [run, advisor_eq hv]
  split <;> rfl

theorem run_eq_prepared (hv : c.settings.Valid) (hc : c.Counted) (symptoms : List String) (user : υ) :
    c.run symptoms user = .ok (.ok (c.prepared.run symptoms c.systemTypes user)) :=
  (run_eq hv symptoms user).trans (if_pos hc)

theorem Ends.of_prepared {symptoms : List String} {user : υ} {P : Diagnosis → World υ → Prop} (hv : c.settings.Valid)
    (h : c.Counted → P (c.prepared.run symptoms c.systemTypes user).1 (c.prepared.run symptoms c.systemTypes user).2) :
    c.Ends symptoms user P where
  held hc := ⟨_, _, run_eq_prepared hv hc symptoms user, h hc⟩
  overflows hc := (run_eq hv symptoms user).trans (if_neg hc)

theorem run_prepared_eq_session (c : Consultation υ) (symptoms : List String) (user : υ) :
    c.prepared.run symptoms c.systemTypes user =
      let (verdicts, store) := c.session symptoms user
      (⟨store.world.firings, verdicts, store.observed, store.world.memory⟩, store.world) := by
  rw [Prepared.run, RuleSet.run_eq]
  rfl

theorem run_eq_session (hv : c.settings.Valid) (hc : c.Counted) (symptoms : List String) (user : υ) :
    c.run symptoms user =
      let (verdicts, store) := c.session symptoms user
      .ok (.ok (⟨store.world.firings, verdicts, store.observed, store.world.memory⟩, store.world)) := by
  rw [run_eq_prepared hv hc, run_prepared_eq_session]

-- A session of a prepared advisor is the course of its rules.
theorem run_prepared_eq (hn : c.knowledge.Numbered) (symptoms : List String) (user : υ) :
    c.prepared.run symptoms c.systemTypes user = (c.diagnosis symptoms user, (c.course symptoms user).2.world) := by
  have hr := c.ruleSet.run_of_falling (KnowledgeBase.rules_falling hn)
    (c.bindings.sessionFacts c.systemTypes) World.hear (.start user symptoms)
  rw [Prepared.run]
  simp only [prepared, hr]
  rfl

theorem run_eq_course (hv : c.settings.Valid) (hn : c.knowledge.Numbered) (hc : c.Counted) (symptoms : List String)
    (user : υ) : c.run symptoms user = .ok (.ok (c.diagnosis symptoms user, (c.course symptoms user).2.world)) := by
  rw [run_eq_prepared hv hc, run_prepared_eq hn]

theorem Ends.of_course {symptoms : List String} {user : υ} {P : Diagnosis → World υ → Prop} (hv : c.settings.Valid)
    (hn : c.knowledge.Numbered)
    (h : c.Counted → P (c.diagnosis symptoms user) (c.course symptoms user).2.world) : c.Ends symptoms user P :=
  .of_prepared hv (by rwa [run_prepared_eq hn])

end Consultation

-- Who has the say about a fact in a session.
inductive Holder where
  | memory
  | systemTypes
  | preset (value : Json)
  | confirmation (s : Solution) (c : Confirmation)
  | question
  | nobody

def Holder.confirmation? : Holder → Option (Solution × Confirmation)
  | confirmation s c => some (s, c)
  | _ => none

-- What the fact is bound to, if it is bound before the session starts.
def Holder.kind? : Holder → Option Binding.Kind
  | preset value => some (.preset value)
  | confirmation s c => some (.confirmation s c)
  | question => some .question
  | memory | systemTypes | nobody => none

namespace KnowledgeBase

theorem filterMap_firm?_registrations (kb : KnowledgeBase) :
    kb.registrations.filterMap Registration.firm? =
      kb.confirmations.map fun e => (e.1, .confirmation e.2.1 e.2.2) := by
  simp only [registrations, confirmations, List.filterMap_flatMap, List.map_flatMap]
  congr 1
  funext l
  simp [Link.registrations, List.filterMap_map, Registration.firm?, Function.comp_def]

theorem filterMap_question?_registrations (kb : KnowledgeBase) :
    kb.registrations.filterMap Registration.question? = kb.asked := by
  simp only [registrations, asked, List.filterMap_flatMap]
  congr 1
  funext l
  simp [Link.registrations, List.filterMap_map, Registration.question?, Function.comp_def]

end KnowledgeBase

namespace Consultation

variable {c : Consultation υ} {id : String}

-- The session's own facts come first, then the last answer given beforehand, then the last
-- confirmation that a link asks for, and a question only has its id if nobody else has.
def holder (c : Consultation υ) (id : String) : Holder :=
  if id = Bindings.symptomsFact then .memory
  else if id = Bindings.systemTypesFact then .systemTypes
  else match latest? c.presets id with
    | some value => .preset value
    | none => match c.knowledge.confirmation? id with
      | some (s, k) => .confirmation s k
      | none => if id ∈ c.knowledge.asked then .question else .nobody

theorem kind?_bindings (c : Consultation υ) (id : String) :
    c.bindings.kind? id =
      ((latest? c.presets id).map .preset).or
        (((c.knowledge.confirmation? id).map fun (s, k) => .confirmation s k).or
          (if id ∈ c.knowledge.asked then some .question else none)) := by
  have he : (Bindings.empty c.knowledge c.respondent c.settings).kind? id = none := by
    simp [Bindings.kind?, Bindings.empty]
  have hf : (c.presets.map fun (id, value) => Registration.preset id value).filterMap
      Registration.firm? = c.presets.map fun e => (e.1, .preset e.2) := by
    simp [List.filterMap_map, Registration.firm?, Function.comp_def]
  have hq : (c.presets.map fun (id, value) => Registration.preset id value).filterMap
      Registration.question? = [] := by
    simp [List.filterMap_map, Registration.question?, Function.comp_def]
  have hc := latest?_map (fun p => Binding.Kind.confirmation p.1 p.2) c.knowledge.confirmations id
  rw [bindings, Bindings.kind?_enterAll, he, registrations, List.filterMap_append, List.filterMap_append,
    c.knowledge.filterMap_firm?_registrations, c.knowledge.filterMap_question?_registrations, hf, hq,
    latest?_append, latest?_map, hc]
  simp [KnowledgeBase.confirmation?, Option.or_assoc]

theorem kind?_holder (hm : id ≠ Bindings.symptomsFact) (ht : id ≠ Bindings.systemTypesFact) :
    (c.holder id).kind? = c.bindings.kind? id := by
  rw [kind?_bindings]
  simp only [holder, hm, ht, if_false]
  cases latest? c.presets id
  case some => rfl
  case none =>
    cases c.knowledge.confirmation? id
    case some => rfl
    case none => by_cases ha : id ∈ c.knowledge.asked <;> simp [ha, Holder.kind?]

theorem confirmation?_of_holder {k : Solution} {p : Confirmation} (h : c.holder id = .confirmation k p) :
    c.knowledge.confirmation? id = some (k, p) := by
  simp only [holder] at h
  grind

theorem confirmation?_of_question (h : c.holder id = .question) : c.knowledge.confirmation? id = none := by
  simp only [holder] at h
  grind

theorem factId_of_holder {k : Solution} {p : Confirmation} (h : c.holder id = .confirmation k p) :
    p.factId k.id = id := by
  have hm := mem_of_latest? (confirmation?_of_holder h)
  simp only [KnowledgeBase.confirmations, List.mem_flatMap, List.mem_map, Prod.mk.injEq] at hm
  grind

theorem bindings_keeps (c : Consultation υ) :
    c.bindings.knowledge = c.knowledge ∧ c.bindings.respondent = c.respondent ∧
    c.bindings.sessionPriority = c.settings.sessionFactPriority :=
  Bindings.enterAll_keeps ..

theorem find?_facts_memory (c : Consultation υ) :
    c.facts.find? Bindings.symptomsFact =
      some ⟨Bindings.symptomsFact, .provider fun w => (⟨.ok w.memory.toJson, 0⟩, w), false,
        c.settings.sessionFactPriority⟩ := by
  simp [facts, Facts.addAll, Facts.add, Bindings.sessionFacts, Table.find?_insert, Fact.constant,
    Bindings.symptomsFact, Bindings.systemTypesFact, c.bindings_keeps.2.2]

theorem find?_facts_systemTypes (c : Consultation υ) :
    c.facts.find? Bindings.systemTypesFact =
      some (.constant Bindings.systemTypesFact (.ofStrings c.systemTypes)
        c.settings.sessionFactPriority) := by
  simp [facts, Facts.addAll, Facts.add, Bindings.sessionFacts, Table.find?_insert, Fact.constant,
    c.bindings_keeps.2.2]

theorem find?_facts_of_ne (hm : id ≠ Bindings.symptomsFact) (ht : id ≠ Bindings.systemTypesFact) :
    c.facts.find? id =
      (c.bindings.table.find? id).map (Binding.fact c.knowledge c.respondent id) := by
  simp only [facts, Facts.addAll, Facts.add, Bindings.sessionFacts, Fact.constant, List.foldl_cons,
    List.foldl_nil, Table.find?_insert, hm, ht, if_false, Bindings.find?_facts, Bindings.fact?,
    c.bindings_keeps]

-- The facts of two sessions are related if the ones that every session has are, and if the same is bound
-- to ones that are.
theorem facts_rel {υ' : Type} {c' : Consultation υ'} {R : Fact (World υ) → Fact (World υ') → Prop}
    (hm : R ⟨Bindings.symptomsFact, .provider fun w => (⟨.ok w.memory.toJson, 0⟩, w), false,
        c.settings.sessionFactPriority⟩
      ⟨Bindings.symptomsFact, .provider fun w => (⟨.ok w.memory.toJson, 0⟩, w), false,
        c'.settings.sessionFactPriority⟩)
    (ht : R (.constant Bindings.systemTypesFact (.ofStrings c.systemTypes) c.settings.sessionFactPriority)
      (.constant Bindings.systemTypesFact (.ofStrings c'.systemTypes) c'.settings.sessionFactPriority))
    (hb : c.bindings.table = c'.bindings.table)
    (hR : ∀ id (b : Binding), R (b.fact c.knowledge c.respondent id) (b.fact c'.knowledge c'.respondent id))
    (id : String) : Option.Rel R (c.facts.find? id) (c'.facts.find? id) := by
  by_cases hs : id = Bindings.symptomsFact
  case pos =>
    rw [hs, c.find?_facts_memory, c'.find?_facts_memory]
    exact .some hm
  case neg =>
    by_cases hy : id = Bindings.systemTypesFact
    case pos =>
      rw [hy, c.find?_facts_systemTypes, c'.find?_facts_systemTypes]
      exact .some ht
    case neg =>
      rw [find?_facts_of_ne hs hy, find?_facts_of_ne hs hy, hb]
      cases c'.bindings.table.find? id
      case none => exact .none
      case some b => exact .some (hR id b)

end Consultation

-- Water that tastes bad, for which the filter may have to be changed or may be clogged.
def KnowledgeBase.water : KnowledgeBase :=
  .ofDistinct
    [⟨"Symptom1", "Water tastes bad", none, [⟨"Solution1", ⟨["osmosis"], ["Question1"], []⟩⟩],
        [⟨"Symptom2", ⟨[], [], ["Question2"]⟩⟩]⟩,
      ⟨"Symptom2", "Filter clogged", none, [], [⟨"Symptom1", ⟨[], [], []⟩⟩]⟩]
    [⟨"Solution1", "Change the filter", none, none, none, true, true⟩]
    [⟨"Question1", "Do you have spare filters?", none, .yesNo, none⟩,
      ⟨"Question2", "Is the water warm?", none, .yesNo, none⟩]
    (by decide) (by decide) (by decide)

-- Somebody who has spare filters, cannot tell how warm the water is, and counts what is asked.
def Respondent.counting (delay : Nat → Nat) : Respondent Nat where
  question := some fun q n =>
    (⟨if q.id = "Question1" then .ok .yes else .error "no thermometer", delay n⟩, n + 1)
  confirmation := some fun _ _ n => (⟨.ok .yes, delay n⟩, n + 1)

def Consultation.water (delay : Nat → Nat) : Consultation Nat :=
  ⟨{}, .water, .counting delay, [("Question3", .string "yes")], ["osmosis"]⟩

end Troubleshoot
