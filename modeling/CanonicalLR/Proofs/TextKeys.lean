import CanonicalLR.Proofs.Discovery

/-! # Texts as keys

Item sets are told apart by their signatures, which are made of the texts of their items. A text leaves out the number
of the production, so that the items of a rule that is written twice have one text. A signature can stand for a set all
the same: the sets that closure and GOTO make of the start item hold the items of all copies of a rule or of none. Where
no rule is written twice it stands for any list of items without repeats.
-/
namespace CanonicalLR

variable {items : ItemSet} {i j : Item}

theorem Item.text_eq_of_core_eq (h : i.core = j.core) : i.text = j.text := by
  obtain ⟨hlhs, hrhs, hdot, hlookahead⟩ := core_eq_iff.mp h
  simp only [text, dottedNames, hlhs, hrhs, hdot, hlookahead]

/-- Every item has an arrow in its text. -/
theorem Item.arrow_mem_text (i : Item) : '>' ∈ i.text.toList := by
  rw [toList_text]
  exact List.mem_append_right _ List.mem_cons_self

theorem ItemSet.arrow_mem_signature (h : items ≠ []) : '>' ∈ items.signature.toList := by
  obtain ⟨first, rest, hcons⟩ := List.exists_cons_of_ne_nil (mt sortedTexts_eq_nil_iff.mp h)
  have hfirst : first ∈ items.map Item.text := items.sortedTexts_perm.mem_iff.mp (hcons ▸ List.mem_cons_self)
  obtain ⟨i, -, rfl⟩ := List.mem_map.mp hfirst
  rw [show items.signature = String.intercalate "|" (i.text :: rest) from congrArg (String.intercalate "|") hcons]
  cases rest with
  | nil =>
    rw [String.intercalate_singleton]
    exact i.arrow_mem_text
  | cons next rest =>
    rw [String.intercalate_cons_cons, String.toList_append, String.toList_append, List.append_assoc]
    exact List.mem_append_left _ i.arrow_mem_text

theorem ItemSet.signature_eq_empty_iff : items.signature = "" ↔ items = [] := by
  constructor
  · intro hempty
    by_contra hne
    have harrow := arrow_mem_signature hne
    rw [hempty] at harrow
    cases harrow
  · rintro rfl
    rfl

namespace Grammar

variable {g : Grammar} {I J : ItemSet}

/-- The item sets that closure and GOTO make of the start item, in any order and over any symbols. -/
inductive Arises (g : Grammar) : ItemSet → Prop
  | start : Arises g [g.startItem]
  | closure {items : ItemSet} (arises : Arises g items) : Arises g (g.closure items)
  | goto {items : ItemSet} (arises : Arises g items) (X : Symbol) : Arises g (g.goto items X)

/-- Items of the grammar without repeats, and of the copies of a rule all or none. -/
structure Twinned (g : Grammar) (items : ItemSet) : Prop where
  nodup : items.Nodup
  hasItem : ∀ i ∈ items, g.HasItem i
  twins : g.TwinClosed items

theorem Twinned.closure (hg : g.WellFormed) (hitems : ∀ i ∈ items, g.HasItem i) (twins : g.TwinClosed items) :
    g.Twinned (g.closure items) where
  nodup := nodup_closure hg fun i hi => (hitems i hi).admits
  hasItem := closure_induction hitems fun _ hi _ hj => hi.of_mem_predictions hg hj
  twins := twinClosed_closure hg hitems twins

theorem Arises.twinned (hg : g.WellFormed) (h : g.Arises items) : g.Twinned items := by
  induction h with
  | start =>
    exact ⟨List.nodup_singleton _, List.forall_mem_singleton.mpr (hasItem_startItem g), twinClosed_startItem hg⟩
  | closure arises ih => exact .closure hg ih.hasItem ih.twins
  | goto arises X ih =>
    exact .closure hg (hasItem_of_mem_advanceOver ih.hasItem) (twinClosed_advanceOver ih.hasItem ih.twins)

theorem Collected.arises (h : g.Collected items) : g.Arises items := by
  induction h with
  | start => exact .closure .start
  | goto collected X ne_nil ih => exact .goto ih X

/-- Where no rule is written twice, no item has a twin. -/
theorem twinned_of_nodup (hg : g.WellFormed) (hdistinct : g.rules.Nodup) (hnodup : items.Nodup)
    (hitems : ∀ i ∈ items, g.HasItem i) : g.Twinned items where
  nodup := hnodup
  hasItem := hitems
  twins := by
    intro i hi j hj hcore
    have hproduction := eq_of_rule_eq hg hdistinct (hitems i hi).production_mem hj.production_mem
      (congrArg Prod.fst hcore)
    exact Item.eq_of_core_eq hproduction hcore ▸ hi

/-- On twinned sets the signature decides equality, also with the empty set. -/
theorem Twinned.signature_eq_iff (hg : g.WellFormed) (hI : g.Twinned I) (hJ : g.Twinned J) :
    I.signature = J.signature ↔ I.toFinset = J.toFinset := by
  rw [List.toFinset.ext_iff]
  constructor
  · intro h
    have hempty : I = [] ↔ J = [] := by
      rw [← ItemSet.signature_eq_empty_iff, h, ItemSet.signature_eq_empty_iff]
    by_cases hI' : I = []
    · simp [hI', hempty.mp hI']
    · exact mem_iff_of_signature_eq hg hI.hasItem hJ.hasItem hI' (hI' ∘ hempty.mpr) hI.twins hJ.twins h
  · exact signature_eq_of_mem_iff hI.nodup hJ.nodup

theorem TwinClosed.mem_iff_of_rule_eq (hitems : ∀ i ∈ items, g.HasItem i) (twins : g.TwinClosed items)
    {p q : Production} (hp : p ∈ g.productions) (hq : q ∈ g.productions) (h : p.rule = q.rule) (dot : Nat)
    (a : Symbol) : ⟨p, dot, a⟩ ∈ items ↔ ⟨q, dot, a⟩ ∈ items := by
  have hone : ∀ {p q : Production}, q ∈ g.productions → p.rule = q.rule → ⟨p, dot, a⟩ ∈ items →
      ⟨q, dot, a⟩ ∈ items := by
    intro p q hq h hmem
    have hitem := hitems _ hmem
    have hrhs : p.rhs = q.rhs := congrArg Rule.rhs h
    have hdot : dot ≤ q.rhs.length := hrhs ▸ hitem.dot_le
    exact twins _ hmem _ ⟨hq, hdot, hitem.lookahead_mem⟩ (Prod.ext h rfl)
  exact ⟨hone hq h, hone hp h.symm⟩

/-- Texts can stand for items up to the copies of a rule, and signatures for item sets. -/
structure TextKeys (g : Grammar) : Prop where
  item_texts : ∀ i j, g.HasItem i → g.HasItem j →
    (i.text = j.text ↔ i.production.lhs = j.production.lhs ∧ i.production.rhs = j.production.rhs ∧
      i.dot = j.dot ∧ i.lookahead = j.lookahead)
  signatures : g.rules.Nodup → ∀ I J : ItemSet, I.Nodup → J.Nodup → (∀ i ∈ I, g.HasItem i) →
    (∀ j ∈ J, g.HasItem j) → (I.signature = J.signature ↔ I.toFinset = J.toFinset)
  arising_signatures : ∀ I J, g.Arises I → g.Arises J → (I.signature = J.signature ↔ I.toFinset = J.toFinset)
  copies_together : ∀ items, g.Arises items → ∀ p ∈ g.productions, ∀ q ∈ g.productions, p.rule = q.rule →
    ∀ dot a, (⟨p, dot, a⟩ ∈ items ↔ ⟨q, dot, a⟩ ∈ items)
  states_arise : ∀ s ∈ g.automaton.states, g.Arises s.items

/-- In every grammar that can be read, sets told apart by their texts are told apart by their items. -/
theorem textKeys_of_read {text : String} (hread : read text = .ok g) : g.TextKeys := by
  have hg := wellFormed_of_read hread
  constructor
  case item_texts =>
    intro i j hi hj
    rw [← Item.core_eq_iff]
    exact ⟨core_eq_of_text_eq hg hi hj, Item.text_eq_of_core_eq⟩
  case signatures =>
    intro hdistinct I J hI hJ hI' hJ'
    exact (twinned_of_nodup hg hdistinct hI hI').signature_eq_iff hg (twinned_of_nodup hg hdistinct hJ hJ')
  case arising_signatures => exact fun I J hI hJ => (hI.twinned hg).signature_eq_iff hg (hJ.twinned hg)
  case copies_together =>
    intro items h p hp q hq hrule
    exact (h.twinned hg).twins.mem_iff_of_rule_eq (h.twinned hg).hasItem hp hq hrule
  case states_arise => exact fun s hs => (collected_of_mem_states hg hs).arises

/-- Both copies of the rule have one text, and no arising set has the items of only one of them. -/
theorem textKeys_of_read_doubled :
    read "S -> a\nS -> a" = .ok doubled ∧
      (⟨⟨1, .nonterminal "S", [.terminal "a"]⟩, 0, .endMarker⟩ : Item).text =
        (⟨⟨2, .nonterminal "S", [.terminal "a"]⟩, 0, .endMarker⟩ : Item).text ∧
      doubled.TextKeys :=
  ⟨read_doubled, rfl, textKeys_of_read read_doubled⟩

end Grammar

end CanonicalLR
