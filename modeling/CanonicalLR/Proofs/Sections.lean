import CanonicalLR.Description
import CanonicalLR.Proofs.Listing
import CanonicalLR.Table.Decoding
import Mathlib

/-! # Listings in JSON

Filling the rows of a listing adds one entry for every cell as long as no other cell of the state has a symbol of the
same name, and in JSON the rows stay apart because numbers do as texts. So the entries of a section are those of the
table in another order, and whoever knows for a section what kind of symbol its names stand for reads them back.
-/
namespace CanonicalLR

namespace Entries

variable {κ α : Type} [DecidableEq κ] {t : Entries κ α} {key : κ} {old : α}

/-- A new value takes the place of the old one. -/
theorem toList_put_of_get? (h : t.get? key = some old) (value : α) :
    ∃ before after, t.toList = before ++ (key, old) :: after ∧
      (t.put key value).toList = before ++ (key, value) :: after := by
  obtain ⟨l⟩ := t
  unfold get? at h
  unfold put
  induction l with
  | nil => cases h
  | cons e l ih =>
    obtain ⟨k, v⟩ := e
    simp only [lookup] at h
    simp only [write]
    split at h
    · next hk =>
      cases h
      subst hk
      exact ⟨[], l, rfl, by rw [if_pos rfl]; rfl⟩
    · next hk =>
      obtain ⟨before, after, hold, hnew⟩ := ih h
      refine ⟨(k, v) :: before, after, congrArg ((k, v) :: ·) hold, ?_⟩
      rw [if_neg hk]
      exact congrArg ((k, v) :: ·) hnew

theorem toList_put_of_get?_eq_none (h : t.get? key = none) (value : α) :
    (t.put key value).toList = t.toList ++ [(key, value)] := by
  obtain ⟨l⟩ := t
  unfold get? at h
  unfold put
  induction l with
  | nil => rfl
  | cons e l ih =>
    obtain ⟨k, v⟩ := e
    simp only [lookup] at h
    simp only [write]
    split at h
    · cases h
    · next hk =>
      rw [if_neg hk]
      exact congrArg ((k, v) :: ·) (ih h)

theorem get?_eq_none_iff : t.get? key = none ↔ key ∉ t.keys := by
  rw [mem_keys, Option.not_isSome_iff_eq_none]

theorem toList_foldl_put {l : List (κ × α)} (h : (t.keys ++ l.map Prod.fst).Nodup) :
    (l.foldl (fun t e => t.put e.1 e.2) t).toList = t.toList ++ l := by
  induction l generalizing t with
  | nil => exact (List.append_nil _).symm
  | cons e l ih =>
    have hnew : e.1 ∉ t.keys := by
      intro hmem
      exact (List.nodup_append.mp h).2.2 e.1 hmem e.1 List.mem_cons_self rfl
    have hput := toList_put_of_get?_eq_none (get?_eq_none_iff.mpr hnew) e.2
    rw [List.foldl_cons, ih, hput, List.append_assoc]
    · rfl
    · rw [keys, hput, List.map_append, List.append_assoc]
      exact h

/-- Entries whose keys differ are kept in their order. -/
theorem toList_ofList {l : List (κ × α)} (h : (l.map Prod.fst).Nodup) : (ofList l).toList = l :=
  toList_foldl_put h

end Entries

namespace Rows

variable {α : Type} {rows filled : Rows α} {q : Int} {row : Entries String α} {name : String} {value : α}

/-- All entries, under the number of their row and their name. -/
def cells (rows : Rows α) : List ((Int × String) × α) :=
  rows.toList.flatMap fun (q, row) => row.toList.map fun (name, value) => ((q, name), value)

theorem toList_blank {states : List Int} (h : states.Nodup) :
    (blank states : Rows α).toList = states.map fun q => (q, .empty) := by
  apply Entries.toList_ofList
  rwa [List.map_map, show Prod.fst ∘ _ = id from rfl, List.map_id]

theorem keys_blank {states : List Int} (h : states.Nodup) : (blank states : Rows α).keys = states := by
  rw [Entries.keys, toList_blank h, List.map_map]
  exact List.map_id states

theorem cells_blank {states : List Int} (h : states.Nodup) : (blank states : Rows α).cells = [] := by
  rw [cells, toList_blank h]
  simp [Entries.empty]

theorem cells_put (hrow : rows.get? q = some row) (hname : row.get? name = none) (value : α) :
    (cells (rows.put q (row.put name value))).Perm (((q, name), value) :: rows.cells) := by
  obtain ⟨before, after, hold, hnew⟩ := Entries.toList_put_of_get? hrow (row.put name value)
  rw [cells, cells, hold, hnew]
  simp only [List.flatMap_append, List.flatMap_cons, Entries.toList_put_of_get?_eq_none hname, List.map_append,
    List.map_cons, List.map_nil, List.append_assoc, List.singleton_append]
  exact (List.perm_middle.append_left _).trans List.perm_middle

theorem mem_cells_of_get? (hrow : rows.get? q = some row) (hvalue : row.get? name = some value) :
    ((q, name), value) ∈ rows.cells :=
  List.mem_flatMap.mpr ⟨(q, row), Entries.mem_of_get? hrow,
    List.mem_map.mpr ⟨(name, value), Entries.mem_of_get? hvalue, rfl⟩⟩

def named (entry : Cell × α) : (Int × String) × α := ((entry.1.1, entry.1.2.name), entry.2)

theorem keys_fill {entries : List (Cell × α)} (h : rows.fill entries = .ok filled) : filled.keys = rows.keys := by
  induction entries generalizing rows with
  | nil =>
    cases h
    rfl
  | cons entry entries ih =>
    rw [fill] at h
    split at h
    · cases h
    · next row hrow =>
      rw [ih h, Entries.keys_put, Distinct.insert, if_pos]
      rw [Entries.mem_keys, hrow]
      rfl

/-- Cells of different states or names do not touch. -/
theorem cells_fill {entries : List (Cell × α)} (h : rows.fill entries = .ok filled)
    (hdistinct : ((rows.cells ++ entries.map named).map Prod.fst).Nodup) :
    filled.cells.Perm (rows.cells ++ entries.map named) := by
  induction entries generalizing rows with
  | nil =>
    cases h
    simp
  | cons entry entries ih =>
    obtain ⟨⟨q, X⟩, value⟩ := entry
    rw [fill] at h
    split at h
    · cases h
    · next row hrow =>
      have hname : row.get? X.name = none := by
        by_contra hsome
        obtain ⟨old, hold⟩ := Option.ne_none_iff_exists'.mp hsome
        rw [List.map_append, List.nodup_append] at hdistinct
        exact hdistinct.2.2 (q, X.name) (List.mem_map_of_mem (mem_cells_of_get? hrow hold)) (q, X.name)
          List.mem_cons_self rfl
      have hput := (cells_put hrow hname value).append_right (entries.map named)
      have hmiddle := hput.trans List.perm_middle.symm
      exact (ih h ((hmiddle.map Prod.fst).nodup_iff.mpr hdistinct)).trans hmiddle

end Rows

theorem toString_injective : Function.Injective (toString : Int → String) := by
  intro q r h
  simpa using h

theorem mapM_eq_some_self {α : Type} {f : α → Option α} {l : List α} (h : ∀ x ∈ l, f x = some x) :
    l.mapM f = some l := by
  induction l with
  | nil => rfl
  | cons x l ih =>
    obtain ⟨hx, hl⟩ := List.forall_mem_cons.mp h
    simp [List.mapM_cons, hx, ih hl]

/-- What is read from one order of a list is read from any other, in another order. -/
theorem exists_mapM_of_perm {α β : Type} {f : α → Option β} {l l' : List α} (h : l.Perm l') {ys : List β}
    (hl : l.mapM f = some ys) : ∃ ys', l'.mapM f = some ys' ∧ ys.Perm ys' := by
  induction h generalizing ys with
  | nil => exact ⟨ys, hl, .refl ys⟩
  | cons x h ih =>
    simp only [List.mapM_cons, Option.bind_eq_bind, Option.bind_eq_some_iff, Option.pure_def] at hl
    obtain ⟨y, hy, zs, hzs, heq⟩ := hl
    obtain ⟨zs', hzs', hperm⟩ := ih hzs
    cases heq
    exact ⟨y :: zs', by simp [List.mapM_cons, hy, hzs'], hperm.cons y⟩
  | swap x x' l =>
    simp only [List.mapM_cons, Option.bind_eq_bind, Option.bind_eq_some_iff, Option.pure_def] at hl
    obtain ⟨y', hy', zs', ⟨y, hy, zs, hzs, heq⟩, heq'⟩ := hl
    cases heq
    cases heq'
    exact ⟨y :: y' :: zs, by simp [List.mapM_cons, hy, hy', hzs], .swap y y' zs⟩
  | trans _ _ ih ih' =>
    obtain ⟨ys', hys', hperm⟩ := ih hl
    obtain ⟨ys'', hys'', hperm'⟩ := ih' hys'
    exact ⟨ys'', hys'', hperm.trans hperm'⟩

namespace Action

def isShift : Action → Bool
  | shift _ => true
  | _ => false

theorem toList_code_shift (target : Int) : (shift target).code.toList = 's' :: (toString target).toList := by
  simp [code, toString]

theorem toList_code_reduce (production : Int) :
    (reduce production).code.toList = 'r' :: (toString production).toList := by
  simp [code, toString]

theorem ofCode?_code (act : Action) : ofCode? act.code = some act := by
  cases act with
  | shift target =>
    rw [ofCode?, toList_code_shift]
    simp [toString, Int.toInt?_repr]
  | reduce production =>
    rw [ofCode?, toList_code_reduce]
    simp [toString, Int.toInt?_repr]
  | accept => rfl

end Action

namespace Json

def isShiftCode (j : Json) : Bool := j.text?.any fun code => code.toList.head? = some 's'

variable {j : Json} {name row : String} {value : Json}

/-- Only the codes of shifts begin with the letter s. -/
theorem isShiftCode_code (act : Action) : (string act.code).isShiftCode = act.isShift := by
  cases act with
  | shift target => simp [isShiftCode, text?, Action.toList_code_shift, Action.isShift]
  | reduce production => simp [isShiftCode, text?, Action.toList_code_reduce, Action.isShift]
  | accept => rfl

theorem get?_eq_some_iff (h : j.keys.Nodup) : j.get? name = some value ↔ (name, value) ∈ j.members := by
  have hunique : ∀ e ∈ j.members.reverse, ∀ e' ∈ j.members.reverse, decide (e.1 = name) = true →
      decide (e'.1 = name) = true → e = e' := by
    intro e he e' he' hname hname'
    exact List.inj_on_of_nodup_map h (List.mem_reverse.mp he) (List.mem_reverse.mp he')
      ((of_decide_eq_true hname).trans (of_decide_eq_true hname').symm)
  simp only [get?, Option.map_eq_some_iff, find?_eq_some_iff_of_unique hunique, List.mem_reverse, decide_eq_true_eq]
  constructor
  · rintro ⟨⟨_, _⟩, ⟨hmem, rfl⟩, rfl⟩
    exact hmem
  · intro hmem
    exact ⟨(name, value), ⟨hmem, rfl⟩, rfl⟩

/-- What stands under two names, if no name comes twice. -/
theorem get?_get?_eq_some_iff (hkeys : j.keys.Nodup) (hcells : (j.cells.map Prod.fst).Nodup) :
    (j.get? row).bind (·.get? name) = some value ↔ ((row, name), value) ∈ j.cells := by
  have hentries : ∀ e ∈ j.members, e.2.keys.Nodup := by
    intro e he
    rw [cells, List.map_flatMap, List.nodup_flatMap] at hcells
    have hnodup : (e.2.keys.map (Prod.mk e.1)).Nodup := by
      rw [keys, List.map_map]
      simpa [Function.comp_def] using hcells.1 e he
    exact hnodup.of_map
  rw [Option.bind_eq_some_iff, cells, List.mem_flatMap]
  constructor
  · rintro ⟨entries, hrow, hname⟩
    have hmem := (get?_eq_some_iff hkeys).mp hrow
    exact ⟨(row, entries), hmem, List.mem_map.mpr ⟨(name, value), (get?_eq_some_iff (hentries _ hmem)).mp hname, rfl⟩⟩
  · rintro ⟨e, hmem, hcell⟩
    obtain ⟨entry, hentry, heq⟩ := List.mem_map.mp hcell
    cases heq
    exact ⟨e.2, (get?_eq_some_iff hkeys).mpr hmem, (get?_eq_some_iff (hentries e hmem)).mpr hentry⟩

theorem keys_toJson {α : Type} (toJson : α → Json) (rows : Rows α) :
    (rows.toJson toJson).keys = (Entries.keys rows).map toString := by
  simp [keys, members, Rows.toJson, Entries.keys]

theorem cells_toJson {α : Type} (toJson : α → Json) (rows : Rows α) :
    (rows.toJson toJson).cells = rows.cells.map fun ((q, name), value) => ((toString q, name), toJson value) := by
  simp [cells, members, Rows.toJson, Rows.cells, List.flatMap_map, List.map_flatMap, Function.comp_def]

end Json

/-- An entry of a table in JSON, under the number of its state and the name of its symbol. -/
def entryJson {α : Type} (toJson : α → Json) (entry : Cell × α) : (String × String) × Json :=
  ((toString entry.1.1, entry.1.2.name), toJson entry.2)

/-- The JSON value has an object for every state and in these objects the entries. -/
structure Json.Lists {α : Type} (j : Json) (states : List Int) (toJson : α → Json) (t : Entries Cell α) : Prop where
  rows : j.keys = states.map toString
  cells : j.cells.Perm (t.toList.map (entryJson toJson))

/-- The JSON value has an object for every state and in these objects, under the names of the symbols, the entries that
there are for the states and the symbols, and nothing else. -/
structure Json.IsSection {α : Type} (j : Json) (states : List Int) (symbols : List Symbol) (toJson : α → Json)
    (value? : Int → Symbol → Option α) : Prop where
  rows : j.keys = states.map toString
  rows_distinct : j.keys.Nodup
  entry : ∀ q ∈ states, ∀ X ∈ symbols,
    ((j.get? (toString q)).bind fun row => row.get? X.name) = (value? q X).map toJson
  only : ∀ cell ∈ j.cells, ∃ q ∈ states, ∃ X ∈ symbols, cell.1 = (toString q, X.name)
  cells_distinct : (j.cells.map Prod.fst).Nodup

/-- The name of a symbol in the entries gives the symbol back. -/
structure Entries.Names {α : Type} (symbol : String → Symbol) (t : Entries Cell α) : Prop where
  nodup : t.keys.Nodup
  symbol_eq : ∀ cell ∈ t.keys, symbol cell.2.name = cell.2

/-- No two cells have the same state and the same name. -/
theorem Entries.Names.nodup_map {α : Type} {symbol : String → Symbol} {t : Entries Cell α} (h : t.Names symbol) :
    (t.keys.map fun cell => (cell.1, cell.2.name)).Nodup := by
  apply List.Nodup.map_on _ h.nodup
  intro cell hcell other hother heq
  obtain ⟨hstate, hname⟩ := Prod.mk.inj heq
  exact Prod.ext hstate (by rw [← h.symbol_eq cell hcell, hname, h.symbol_eq other hother])

namespace Json.Lists

variable {α : Type} {j : Json} {states : List Int} {toJson : α → Json} {t : Entries Cell α} {symbol : String → Symbol}

theorem of_fill {β : Type} {toJson : β → Json} {rows : Rows β} (render : α → β) (hstates : states.Nodup)
    (hnames : t.Names symbol) (hfill : (Rows.blank states).fill (t.toList.map (Prod.map id render)) = .ok rows) :
    (rows.toJson toJson).Lists states (toJson ∘ render) t where
  rows := by rw [keys_toJson, Rows.keys_fill hfill, Rows.keys_blank hstates]
  cells := by
    have hdistinct : (t.keys.map fun cell => (cell.1, cell.2.name)).Nodup := hnames.nodup_map
    have hcells := Rows.cells_fill hfill (by
      rw [Rows.cells_blank hstates, List.nil_append, List.map_map, List.map_map]
      rwa [Entries.keys, List.map_map] at hdistinct)
    rw [Rows.cells_blank hstates, List.nil_append, List.map_map] at hcells
    have hjson := hcells.map fun cell => ((toString cell.1.1, cell.1.2), toJson cell.2)
    rw [List.map_map] at hjson
    rw [cells_toJson]
    exact hjson

theorem nodup_keys (h : j.Lists states toJson t) (hstates : states.Nodup) : j.keys.Nodup := by
  rw [h.rows]
  exact hstates.map toString_injective

theorem nodup_cells (h : j.Lists states toJson t) (hnames : t.Names symbol) : (j.cells.map Prod.fst).Nodup := by
  rw [(h.cells.map Prod.fst).nodup_iff, List.map_map]
  have hdistinct := hnames.nodup_map.map (toString_injective.prodMap Function.injective_id)
  rwa [Entries.keys, List.map_map, List.map_map] at hdistinct

theorem get?_get? (h : j.Lists states toJson t) (hstates : states.Nodup) (hnames : t.Names symbol) (q : Int)
    {X : Symbol} (hX : symbol X.name = X) :
    ((j.get? (toString q)).bind fun row => row.get? X.name) = (t.get? (q, X)).map toJson := by
  ext value
  rw [get?_get?_eq_some_iff (h.nodup_keys hstates) (h.nodup_cells hnames), h.cells.mem_iff, List.mem_map,
    Option.map_eq_some_iff]
  constructor
  · rintro ⟨⟨⟨r, Y⟩, entry⟩, hmem, heq⟩
    obtain ⟨⟨rfl, hY⟩, rfl⟩ : (r = q ∧ Y.name = X.name) ∧ toJson entry = value := by simpa [entryJson] using heq
    have hsame : Y = X := by
      rw [← hX, ← hY]
      exact (hnames.symbol_eq (r, Y) (List.mem_map_of_mem hmem)).symm
    exact ⟨entry, (Entries.get?_eq_some_iff hnames.nodup).mpr (hsame ▸ hmem), rfl⟩
  · rintro ⟨entry, hentry, rfl⟩
    exact ⟨((q, X), entry), Entries.mem_of_get? hentry, rfl⟩

theorem length_cells (h : j.Lists states toJson t) : j.cells.length = t.size := by
  rw [h.cells.length_eq, List.length_map]
  rfl

theorem exists_decoded (h : j.Lists states toJson t) (hnames : t.Names symbol) (decode : Json → Option α)
    (hdecode : ∀ value, decode (toJson value) = some value) :
    ∃ entries, j.cells.mapM (Table.decodeCell symbol decode) = some entries ∧
      ∀ key, (Entries.ofList entries).get? key = t.get? key := by
  have hall : (t.toList.map (entryJson toJson)).mapM (Table.decodeCell symbol decode) = some t.toList := by
    rw [List.mapM_map]
    apply mapM_eq_some_self
    rintro ⟨⟨q, X⟩, value⟩ hmem
    have hX : symbol X.name = X := hnames.symbol_eq (q, X) (List.mem_map_of_mem hmem)
    simp [Table.decodeCell, entryJson, hdecode, hX]
  obtain ⟨entries, hentries, hperm⟩ := exists_mapM_of_perm h.cells.symm hall
  have hkeys : (entries.map Prod.fst).Nodup := (hperm.map Prod.fst).nodup_iff.mp hnames.nodup
  refine ⟨entries, hentries, fun key => ?_⟩
  have hlist := Entries.toList_ofList hkeys
  ext value
  rw [Entries.get?_eq_some_iff (by rwa [Entries.keys, hlist]), Entries.get?_eq_some_iff hnames.nodup, hlist,
    hperm.mem_iff]

/-- If the entries belong to the states and to known symbols, the section has a place for each of them. -/
theorem isSection {symbols : List Symbol} (h : j.Lists states toJson t) (hstates : states.Nodup)
    (hnames : t.Names symbol) (hsymbols : ∀ X ∈ symbols, symbol X.name = X)
    (hkeys : ∀ cell ∈ t.keys, cell.1 ∈ states ∧ cell.2 ∈ symbols) :
    j.IsSection states symbols toJson fun q X => t.get? (q, X) where
  rows := h.rows
  rows_distinct := h.nodup_keys hstates
  entry q _ X hX := h.get?_get? hstates hnames q (hsymbols X hX)
  only cell hcell := by
    obtain ⟨entry, hentry, rfl⟩ := List.mem_map.mp (h.cells.mem_iff.mp hcell)
    obtain ⟨hq, hX⟩ := hkeys entry.1 (List.mem_map_of_mem hentry)
    exact ⟨entry.1.1, hq, entry.1.2, hX, rfl⟩
  cells_distinct := h.nodup_cells hnames

end Json.Lists

/-- The two sections of a listing in JSON. -/
theorem Table.lists_of_listing {t : Table} {l : Listing} (h : t.listing = .ok l) (hstates : t.states.Nodup)
    (hactions : t.actions.Names .terminal) (hgotos : t.gotos.Names .nonterminal) :
    (Rows.toJson .string l.actions).Lists t.states (.string ∘ Action.code) t.actions ∧
      (Rows.toJson .integer l.gotos).Lists t.states .integer t.gotos := by
  obtain ⟨actions, hfillActions, h⟩ := Grammar.bind_eq_ok.mp h
  obtain ⟨gotos, hfillGotos, h⟩ := Grammar.bind_eq_ok.mp h
  cases h
  refine ⟨.of_fill Action.code hstates hactions hfillActions, .of_fill id hstates hgotos ?_⟩
  rwa [Prod.map_id, List.map_id]

theorem Table.lists_eq_of_listing {t : Table} {l : Listing} (h : t.listing = .ok l) :
    l.terminals = t.terminals.map Symbol.name ∧ l.nonterminals = t.nonterminals.map Symbol.name ∧
      l.states = t.states := by
  obtain ⟨actions, -, h⟩ := Grammar.bind_eq_ok.mp h
  obtain ⟨gotos, -, h⟩ := Grammar.bind_eq_ok.mp h
  cases h
  exact ⟨rfl, rfl, rfl⟩

theorem Listing.get?_toJson (l : Listing) : l.toJson.get? "action" = some (Rows.toJson .string l.actions) ∧
    l.toJson.get? "goto" = some (Rows.toJson .integer l.gotos) ∧
    l.toJson.get? "terminals" = some (.strings l.terminals) ∧
    l.toJson.get? "non_terminals" = some (.strings l.nonterminals) ∧
    l.toJson.get? "states" = some (.array (l.states.map .integer)) :=
  ⟨rfl, rfl, rfl, rfl, rfl⟩

theorem map_map_name {symbol : String → Symbol} {symbols : List Symbol} (h : ∀ X ∈ symbols, symbol X.name = X) :
    (symbols.map Symbol.name).map symbol = symbols := by
  rw [List.map_map]
  exact (List.map_congr_left h).trans (List.map_id symbols)

theorem mapM_items {α : Type} {toJson : α → Json} {decode : Json → Option α}
    (h : ∀ x, decode (toJson x) = some x) (xs : List α) : (Json.array (xs.map toJson)).items.mapM decode = some xs := by
  rw [Json.items, List.mapM_map]
  exact mapM_eq_some_self fun x _ => h x

/-- The tables have the same entries and lists, though maybe not in the same order and with the same conflicts. -/
structure Table.Agrees (t t' : Table) : Prop where
  action?_eq : ∀ q X, t.action? q X = t'.action? q X
  goto?_eq : ∀ q X, t.goto? q X = t'.goto? q X
  terminals_eq : t.terminals = t'.terminals
  nonterminals_eq : t.nonterminals = t'.nonterminals
  states_eq : t.states = t'.states

/-- A table with distinct names is read back from its listing. -/
theorem Table.exists_ofJson? {t : Table} {l : Listing} (h : t.listing = .ok l) (hstates : t.states.Nodup)
    (hactions : t.actions.Names .terminal) (hgotos : t.gotos.Names .nonterminal)
    (hterminals : ∀ X ∈ t.terminals, Symbol.terminal X.name = X)
    (hnonterminals : ∀ X ∈ t.nonterminals, Symbol.nonterminal X.name = X) :
    ∃ t', ofJson? l.toJson = some t' ∧ t'.Agrees t := by
  obtain ⟨hactionSection, hgotoSection⟩ := lists_of_listing h hstates hactions hgotos
  obtain ⟨actions, hactionCells, haction⟩ := hactionSection.exists_decoded hactions
    (fun value => value.text?.bind Action.ofCode?) Action.ofCode?_code
  obtain ⟨gotos, hgotoCells, hgoto⟩ := hgotoSection.exists_decoded hgotos Json.integer? fun _ => rfl
  have htext := @mapM_items _ Json.string Json.text? fun _ => rfl
  have hinteger := @mapM_items _ Json.integer Json.integer? fun _ => rfl
  obtain ⟨hterminalNames, hnonterminalNames, hstates⟩ := lists_eq_of_listing h
  refine ⟨⟨.ofList actions, .ofList gotos, l.terminals.map .terminal, l.nonterminals.map .nonterminal, l.states, []⟩,
    ?_, ⟨fun q X => haction (q, X), fun q X => hgoto (q, X), ?_, ?_, hstates⟩⟩
  · obtain ⟨haction, hgoto, hterminal, hnonterminal, hstate⟩ := l.get?_toJson
    simp only [ofJson?, haction, hgoto, hterminal, hnonterminal, hstate, hactionCells, hgotoCells, Json.strings, htext,
      hinteger, Option.bind_eq_bind, Option.bind_some]
    rfl
  · rw [hterminalNames]
    exact map_map_name hterminals
  · rw [hnonterminalNames]
    exact map_map_name hnonterminals

end CanonicalLR
