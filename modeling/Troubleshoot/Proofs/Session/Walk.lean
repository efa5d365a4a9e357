import Troubleshoot.Proofs.Session.Opinion

namespace Troubleshoot

variable {υ : Type}

-- Where a walk through a knowledge base has got to: the symptoms that are active now, what fired on
-- the way, and whether each link that was passed applied, by the name of its rule.
structure Walk where
  active : List String
  fired : List Firing
  matched : List (String × Bool)

def Opinion.text? (o : Opinion) (call : Call) : Option String :=
  match o call with
  | some (.ok (.text s)) => some s
  | _ => none

theorem Solution.mem_confirmations {k : Solution} {p : Confirmation} :
    p ∈ k.confirmations ↔ (p = .areYouAble ∧ k.askAreYouAble) ∨ (p = .didItWork ∧ k.askDidItWork) := by
  cases ha : k.askAreYouAble <;> cases hd : k.askDidItWork <;> simp [Solution.confirmations, ha, hd]

-- All that is looked up on the way.
structure Guide where
  knowledge : KnowledgeBase
  opinion : Opinion
  presets : List (String × Json)
  systemTypes : List String

namespace Guide

-- The text that an id reads: the last answer given beforehand, or else what is said to the last
-- confirmation that is asked for under the id, or else to the question. The session's own two facts
-- are lists, and read no text.
def reads (g : Guide) (id : String) : Option String :=
  if id = "symptoms" ∨ id = "systemTypes" then none
  else match latest? g.presets id, g.knowledge.confirmation? id, g.knowledge.question? id with
    | some value, _, _ => value.string?
    | none, some (k, p), _ => g.opinion.text? (.confirmation k p)
    | none, none, some q => g.opinion.text? (.question q)
    | none, none, none => none

def admits (g : Guide) (guard : Guard) : Prop :=
  (guard.systemTypes = [] ∨ ∃ t ∈ guard.systemTypes, t ∈ g.systemTypes) ∧
  (∀ id ∈ guard.mustBeYes, g.reads id = some "yes") ∧ ∀ id ∈ guard.mustBeNo, g.reads id = some "no"

def confirms (g : Guide) (k : Solution) : Prop :=
  (k.askAreYouAble → g.reads (k.id ++ ":able") = some "yes") ∧ (k.askDidItWork → g.reads k.id = some "yes")

instance (g : Guide) (guard : Guard) : Decidable (g.admits guard) :=
  inferInstanceAs (Decidable ((_ ∨ _) ∧ _ ∧ _))

instance (g : Guide) (k : Solution) : Decidable (g.confirms k) :=
  inferInstanceAs (Decidable ((_ → _) ∧ (_ → _)))

def passSolution (g : Guide) (s : Symptom) (guard : Guard) (k : Solution) (w : Walk) : Walk :=
  let name := s.name ++ ": " ++ k.name
  if s.id ∈ w.active ∧ g.admits guard ∧ g.confirms k then
    { active := if k.askDidItWork then w.active.filter (· ≠ s.id) else w.active
      fired := w.fired ++
        [⟨if k.askDidItWork then .solved else .deferred, name, s.id, some k.id, none, k.name⟩]
      matched := w.matched ++ [(name, true)] }
  else { w with matched := w.matched ++ [(name, false)] }

def passCause (g : Guide) (s : Symptom) (guard : Guard) (root : Symptom) (w : Walk) : Walk :=
  let name := s.name ++ ": " ++ root.name
  if s.id ∈ w.active ∧ g.admits guard then
    { active := if root.id ∈ w.active then w.active else w.active ++ [root.id]
      fired := w.fired ++ [⟨.addSymptom, name, s.id, none, some root.id, root.name⟩]
      matched := w.matched ++ [(name, true)] }
  else { w with matched := w.matched ++ [(name, false)] }

-- Links whose target does not exist are passed over.
def passSymptom (g : Guide) (w : Walk) (s : Symptom) : Walk :=
  let w := s.candidates.foldl (fun w e =>
    match g.knowledge.solution? e.solutionId with
    | some k => g.passSolution s e.guard k w
    | none => w) w
  s.causes.foldl (fun w e =>
    match g.knowledge.symptom? e.symptomId with
    | some root => g.passCause s e.guard root w
    | none => w) w

def walk (g : Guide) (seed : List String) : Walk :=
  g.knowledge.symptoms.foldl g.passSymptom ⟨seed, [], []⟩

variable {g : Guide} {l : Link}

-- The walk, link by link.
def pass (g : Guide) (w : Walk) : Link → Walk
  | .candidate s e k => g.passSolution s e.guard k w
  | .cause s e root => g.passCause s e.guard root w

theorem passSymptom_eq_foldl (g : Guide) (w : Walk) (s : Symptom) :
    g.passSymptom w s = (g.knowledge.linksOf s).foldl g.pass w := by
  simp only [passSymptom, KnowledgeBase.linksOf, List.foldl_append, List.foldl_filterMap]
  congr 1
  · funext w e
    cases g.knowledge.symptom? e.symptomId <;> rfl
  · congr 1
    funext w e
    cases g.knowledge.solution? e.solutionId <;> rfl

theorem walk_eq_foldl (g : Guide) (seed : List String) :
    g.walk seed = g.knowledge.links.foldl g.pass ⟨seed, [], []⟩ := by
  simp only [walk, KnowledgeBase.links, List.foldl_flatMap]
  congr 1
  funext w s
  exact g.passSymptom_eq_foldl w s

def Applies (g : Guide) (active : List String) (l : Link) : Prop :=
  l.symptom.id ∈ active ∧ g.admits l.guard ∧
    ∀ k p, (k, p) ∈ l.confirmations → g.reads (p.factId k.id) = some "yes"

theorem confirms_iff {s : Symptom} {e : Candidate} {k : Solution} :
    g.confirms k ↔
      ∀ k' p, (k', p) ∈ (Link.candidate s e k).confirmations → g.reads (p.factId k'.id) = some "yes" := by
  have hm : ∀ k' p, (k', p) ∈ (Link.candidate s e k).confirmations ↔ p ∈ k.confirmations ∧ k = k' := by
    simp [Link.confirmations]
  constructor
  case mp =>
    rintro ⟨ha, hd⟩ k' p h
    obtain ⟨hp, he⟩ := (hm k' p).mp h
    subst he
    rcases Solution.mem_confirmations.mp hp with ⟨rfl, hk⟩ | ⟨rfl, hk⟩
    · exact ha hk
    · exact hd hk
  case mpr =>
    intro h
    refine ⟨fun hk => h k .areYouAble ?_, fun hk => h k .didItWork ?_⟩
    · exact (hm _ _).mpr ⟨Solution.mem_confirmations.mpr (.inl ⟨rfl, hk⟩), rfl⟩
    · exact (hm _ _).mpr ⟨Solution.mem_confirmations.mpr (.inr ⟨rfl, hk⟩), rfl⟩

theorem pass_of_applies {w : Walk} (h : g.Applies w.active l) :
    g.pass w l = ⟨(l.firing.apply w.active).1, w.fired ++ [l.firing], w.matched ++ [(l.rule.name, true)]⟩ := by
  obtain ⟨hs, hg, hc⟩ := h
  cases l
  case candidate s e k =>
    simp only [pass, passSolution]
    rw [if_pos ⟨hs, hg, confirms_iff.mpr hc⟩]
    cases hd : k.askDidItWork <;>
      simp [Link.firing, Firing.apply, Solution.effect, hd, Memory.solve, Link.rule, Rule.ofCandidate,
        Rule.nameOf]
  case cause s e root =>
    simp only [pass, passCause]
    rw [if_pos ⟨hs, hg⟩]
    by_cases hr : root.id ∈ w.active <;>
      simp [Link.firing, Firing.apply, Memory.add, hr, Link.rule, Rule.ofCause, Rule.nameOf]

theorem pass_of_not_applies {w : Walk} (h : ¬g.Applies w.active l) :
    g.pass w l = { w with matched := w.matched ++ [(l.rule.name, false)] } := by
  cases l
  case candidate s e k =>
    have hn : ¬(s.id ∈ w.active ∧ g.admits e.guard ∧ g.confirms k) :=
      fun ⟨hs, hg, hk⟩ => h ⟨hs, hg, confirms_iff.mp hk⟩
    simp only [pass, passSolution]
    rw [if_neg hn]
    rfl
  case cause s e root =>
    have hn : ¬(s.id ∈ w.active ∧ g.admits e.guard) := fun ⟨hs, hg⟩ => h ⟨hs, hg, nofun⟩
    simp only [pass, passCause]
    rw [if_neg hn]
    rfl

end Guide

namespace Consultation

variable {c : Consultation υ} {o : Opinion} {m : Memory} {l : Link} {id answer : String}

-- The guide of a consultation with somebody of an opinion.
def guide (c : Consultation υ) (o : Opinion) : Guide :=
  ⟨c.knowledge, o, c.presets, c.systemTypes⟩

theorem map_toJson_answer?_iff {call : Call} :
    (o.answer? call).map Answer.toJson = some (.string answer) ↔ o.text? call = some answer := by
  simp only [Opinion.answer?, Opinion.text?]
  rcases o call with _ | _ | a
  case none => simp
  case some.error => simp [Except.toOption]
  case some.ok => cases a <;> simp [Except.toOption, Answer.toJson_eq_string_iff]

theorem told_eq_string_iff (hn : c.holder id ≠ .nobody) :
    c.told o m id = some (.string answer) ↔ (c.guide o).reads id = some answer := by
  by_cases hm : id = Bindings.symptomsFact
  case pos => simp [told, holder, hm, Guide.reads, Bindings.symptomsFact, Memory.toJson, Json.ofStrings]
  case neg =>
    by_cases ht : id = Bindings.systemTypesFact
    case pos => simp [told, holder, ht, Guide.reads, Bindings.symptomsFact, Bindings.systemTypesFact, Json.ofStrings]
    case neg =>
      have hi : ¬(id = "symptoms" ∨ id = "systemTypes") := fun h => h.elim hm ht
      simp only [holder] at hn
      simp only [told, holder, hm, ht, if_false, Guide.reads, guide, hi] at hn ⊢
      revert hn
      cases latest? c.presets id
      case some value => cases value <;> simp [Json.string?]
      case none =>
        cases c.knowledge.confirmation? id
        case some => exact fun _ => map_toJson_answer?_iff
        case none =>
          by_cases ha : id ∈ c.knowledge.asked
          case neg => simp [ha]
          case pos =>
            cases c.knowledge.question? id
            case none => simp [ha]
            case some => simpa [ha] using map_toJson_answer?_iff

theorem satisfied_equal_iff (hn : c.holder id ≠ .nobody) :
    c.Satisfied o m ⟨id, "equal", .string answer⟩ ↔ (c.guide o).reads id = some answer := by
  rw [← told_eq_string_iff hn (m := m)]
  constructor
  case mp =>
    intro ⟨value, ht, hh⟩
    cases Condition.holds_equal_iff.mp hh
    exact ht
  case mpr => exact fun ht => ⟨_, ht, Condition.holds_equal_iff.mpr rfl⟩

theorem satisfied_contains_iff {a : String} :
    c.Satisfied o m ⟨Bindings.symptomsFact, "contains", .string a⟩ ↔ a ∈ m := by
  have ht : c.told o m Bindings.symptomsFact = some m.toJson := by simp [told, holder]
  simp only [Satisfied, ht, Option.some.injEq, exists_eq_left']
  exact Condition.holds_contains_iff

theorem satisfied_containsOneOf_iff {types : List String} :
    c.Satisfied o m ⟨Bindings.systemTypesFact, "containsOneOf", .ofStrings types⟩ ↔
      ∃ t ∈ types, t ∈ c.systemTypes := by
  have ht : c.told o m Bindings.systemTypesFact = some (.ofStrings c.systemTypes) := by
    simp [told, holder, Bindings.symptomsFact, Bindings.systemTypesFact]
  simp only [Satisfied, ht, Option.some.injEq, exists_eq_left']
  exact Condition.holds_containsOneOf_iff

-- The conditions of a rule say what the walk asks of its link.
theorem satisfied_iff_applies (hl : l ∈ c.knowledge.links) :
    (∀ d ∈ l.rule.conditions, c.Satisfied o m d) ↔ (c.guide o).Applies m l := by
  have he : ∀ id answer, ⟨id, "equal", .string answer⟩ ∈ l.rule.conditions →
      (c.Satisfied o m ⟨id, "equal", .string answer⟩ ↔ (c.guide o).reads id = some answer) :=
    fun id answer hd => satisfied_equal_iff (holder_ne_nobody hl hd)
  have hy : ∀ id ∈ l.guard.mustBeYes, ⟨id, "equal", .string "yes"⟩ ∈ l.rule.conditions :=
    fun id hi => Link.mem_conditions_rule.mpr (.inr (.inr (.inl ⟨id, hi, rfl⟩)))
  have hn : ∀ id ∈ l.guard.mustBeNo, ⟨id, "equal", .string "no"⟩ ∈ l.rule.conditions :=
    fun id hi => Link.mem_conditions_rule.mpr (.inr (.inr (.inr (.inl ⟨id, hi, rfl⟩))))
  have hc : ∀ k p, (k, p) ∈ l.confirmations → ⟨p.factId k.id, "equal", .string "yes"⟩ ∈ l.rule.conditions :=
    fun k p hk => Link.mem_conditions_rule.mpr (.inr (.inr (.inr (.inr ⟨(k, p), hk, rfl⟩))))
  constructor
  case mp =>
    intro h
    refine ⟨satisfied_contains_iff.mp (h _ (Link.mem_conditions_rule.mpr (.inl rfl))), ⟨?_, ?_, ?_⟩, ?_⟩
    · by_cases ht : l.guard.systemTypes = []
      · exact .inl ht
      · exact .inr (satisfied_containsOneOf_iff.mp
          (h _ (Link.mem_conditions_rule.mpr (.inr (.inl ⟨ht, rfl⟩)))))
    · exact fun id hi => (he id "yes" (hy id hi)).mp (h _ (hy id hi))
    · exact fun id hi => (he id "no" (hn id hi)).mp (h _ (hn id hi))
    · exact fun k p hk => (he _ "yes" (hc k p hk)).mp (h _ (hc k p hk))
  case mpr =>
    intro ⟨hs, ⟨ht, hy', hn'⟩, hc'⟩ d hd
    rcases Link.mem_conditions_rule.mp hd with
      rfl | ⟨hne, rfl⟩ | ⟨id, hi, rfl⟩ | ⟨id, hi, rfl⟩ | ⟨⟨k, p⟩, hk, rfl⟩
    · exact satisfied_contains_iff.mpr hs
    · exact satisfied_containsOneOf_iff.mpr (ht.resolve_left hne)
    · exact (he id "yes" hd).mpr (hy' id hi)
    · exact (he id "no" hd).mpr (hn' id hi)
    · exact (he _ "yes" hd).mpr (hc' k p hk)

-- A session has got as far as the walk, and what it remembers are opinions.
structure Follows (c : Consultation υ) (o : Opinion) (seed : List String) (verdicts : List Verdict)
    (s : Store (World υ)) : Prop where
  settled : c.Settled o s
  walked : (c.knowledge.links.take verdicts.length).foldl (c.guide o).pass ⟨seed, [], []⟩ =
    ⟨s.world.memory, s.world.firings, verdicts.map fun v => (v.name, v.result)⟩

theorem follows_judge (ho : c.respondent.Holds o) {seed : List String} {done : List Verdict}
    {s : Store (World υ)} (hl : c.knowledge.links[done.length]? = some l) (hf : s.facts = c.facts)
    (priority : Int64) (h : c.Follows o seed done s) :
    c.Follows o seed (done ++ [(c.judge l priority s).1]) (c.hear l priority s) := by
  have hm := List.mem_of_getElem? hl
  have hr := result_judge_iff_satisfied ho h.settled hf hm priority
  have hw := c.hears l priority s
  have hk := looked_keeps hf (l := l)
  rw [← judge_snd hf priority] at hk
  constructor
  case settled =>
    have hs := (looked_told ho h.settled hf hm).1
    rw [← judge_snd hf priority] at hs
    exact hs
  case walked =>
    have ht : c.knowledge.links.take (done ++ [(c.judge l priority s).1]).length =
        c.knowledge.links.take done.length ++ [l] := by
      simp [List.take_add_one, hl]
    rw [ht, List.foldl_append, h.walked, List.foldl_cons, List.foldl_nil, hw.memory, hw.firings, hk.1, hk.2,
      List.map_append]
    cases hv : (c.judge l priority s).1.result
    case true =>
      have ha := (satisfied_iff_applies hm).mp (hr.mp hv)
      rw [Guide.pass_of_applies ha, List.map_singleton, hv]
      rfl
    case false =>
      have ha : ¬(c.guide o).Applies s.world.memory l := fun ha => by
        rw [hr.mpr ((satisfied_iff_applies hm).mpr ha)] at hv
        cases hv
      rw [Guide.pass_of_not_applies ha, List.map_singleton, hv]
      simp only [Bool.false_eq_true, if_false, List.append_nil]
      rfl

-- The session of somebody who sticks to an opinion is a walk through the knowledge base.
theorem course_follows (ho : c.respondent.Holds o) (seed : List String) (user : υ) :
    c.Follows o seed (c.course seed user).1 (c.course seed user).2 ∧
    (c.course seed user).1.length = c.knowledge.links.length := by
  refine course_induction (P := c.Follows o seed) (fun done s l priority hl hf h =>
    follows_judge ho hl hf priority h) ⟨fun id outcome _ hv => ?_, rfl⟩
  simp [start, Store.start, Store.settled?] at hv

theorem run_eq_walk (hv : c.settings.Valid) (hn : c.knowledge.Numbered) (ho : c.respondent.Holds o)
    (seed : List String) (user : υ) :
    c.Ends seed user fun d _ =>
      (c.guide o).walk seed = ⟨d.activeSymptoms, d.firings, d.verdicts.map fun v => (v.name, v.result)⟩ := by
  refine .of_course hv hn fun _ => ?_
  have ⟨h, hl⟩ := course_follows ho seed user
  have hw := h.walked
  rw [hl, List.take_length] at hw
  rw [Guide.walk_eq_foldl]
  exact hw

-- Whoever has spare filters changes the filter, and the water is fine again.
theorem run_eq_walk_water :
    let o : Opinion
      | .question q => some (if q.id = "Question1" then .ok .yes else .error "no thermometer")
      | .confirmation _ _ => some (.ok .yes)
    ((water Nat.succ).settings.Valid ∧ (water Nat.succ).knowledge.Numbered ∧ (water Nat.succ).respondent.Holds o) ∧
    ∃ d w, (water Nat.succ).run ["Symptom1"] 0 = .ok (.ok (d, w)) ∧
      ((water Nat.succ).guide o).walk ["Symptom1"] =
        ⟨d.activeSymptoms, d.firings, d.verdicts.map fun v => (v.name, v.result)⟩ ∧
      d.activeSymptoms = [] := by
  intro o
  have hv : (water Nat.succ).settings.Valid := by decide
  have hn : (water Nat.succ).knowledge.Numbered := by decide
  have ho : (water Nat.succ).respondent.Holds o := by
    intro call user
    cases call <;> rfl
  have ⟨d, w, hr, hw⟩ := (run_eq_walk hv hn ho ["Symptom1"] 0).held (by decide +kernel)
  have ha : (((water Nat.succ).guide o).walk ["Symptom1"]).active = [] := by decide +kernel
  rw [hw] at ha
  exact ⟨⟨hv, hn, ho⟩, d, w, hr, hw, ha⟩

end Consultation
end Troubleshoot
