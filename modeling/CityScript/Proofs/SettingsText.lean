/-
Settings are read back from their texts, and no other keys are read with them.

Command lines are given a configuration in TOML. Its reader takes one entry after the other
and looks its key up among the known ones, so a document that is accepted has known keys
only (`Config.knownKeys_of_ofEntries?`): a key that is misspelled is never passed over in
silence. Whatever the layout of the document, with comments, empty lines and indented ones,
the configuration that it spells is the one that is read (`Config.ofText?_of_spells`).

A session is given settings in JSON, where keys of other names do not matter. Settings that
are written as a document are read back from its text.
-/
import CityScript.CommandLine.Basic
import CityScript.Proofs.TomlReading

set_option autoImplicit false

namespace CityScript.Config

/-! ## Known keys -/

/-- There are two keys in each table. -/
theorem eq_or_eq_of_lookup {α : Type} {a b key : String} {x y z : α}
    (h : [(a, x), (b, y)].lookup key = some z) : key = a ∧ x = z ∨ key = b ∧ y = z := by
  by_cases ha : key = a
  · simp only [List.lookup_cons, ha, beq_self_eq_true] at h
    exact .inl ⟨ha, Option.some.inj h⟩
  · by_cases hb : key = b
    · subst hb
      simp only [List.lookup_cons, beq_false_of_ne ha, beq_self_eq_true] at h
      exact .inr ⟨rfl, Option.some.inj h⟩
    · simp only [List.lookup_cons, beq_false_of_ne ha, beq_false_of_ne hb] at h
      cases h

/-- Every entry of a table that is accepted has a known key, which has set its value. -/
theorem exists_set_of_setEntries? {fields : List Field} {c d : Config}
    {entries : List (String × Toml)} (h : setEntries? fields c entries = some d)
    {entry : String × Toml} (hentry : entry ∈ entries) :
    ∃ set before after, fields.lookup entry.1 = some set ∧ set before entry.2 = some after := by
  induction entries generalizing c with
  | nil => cases hentry
  | cons first entries ih =>
    simp only [setEntries?, Option.bind_eq_bind, Option.bind_eq_some_iff] at h
    obtain ⟨set, hset, next, hnext, hrest⟩ := h
    rcases List.mem_cons.mp hentry with rfl | hentry
    · exact ⟨set, c, next, hset, hnext⟩
    · exact ih hrest hentry

/-- A document with tables of the known names, and in them values under known keys. -/
structure KnownKeys (entries : List (String × Toml)) : Prop where
  tables : ∀ entry ∈ entries, entry.1 = "grid" ∨ entry.1 = "placement"
  grid : ∀ inner, ("grid", Toml.table inner) ∈ entries →
    ∀ entry ∈ inner, entry.1 = "size" ∨ entry.1 = "mask"
  placement : ∀ inner, ("placement", Toml.table inner) ∈ entries →
    ∀ entry ∈ inner, entry.1 = "search_radius" ∨ entry.1 = "default_center"

/-- **A configuration has known keys only.** -/
theorem knownKeys_of_ofEntries? {entries : List (String × Toml)} {c : Config}
    (h : ofEntries? entries = some c) : KnownKeys entries where
  tables := by
    intro entry hentry
    obtain ⟨set, -, -, hset, -⟩ := exists_set_of_setEntries? h hentry
    exact (eq_or_eq_of_lookup hset).imp And.left And.left
  grid := by
    intro inner hinner entry hentry
    obtain ⟨set, before, after, hset, hafter⟩ := exists_set_of_setEntries? h hinner
    obtain ⟨-, rfl⟩ | ⟨hname, -⟩ := eq_or_eq_of_lookup hset
    · obtain ⟨set, -, -, hset, -⟩ := exists_set_of_setEntries? hafter hentry
      exact (eq_or_eq_of_lookup hset).imp And.left And.left
    · exact absurd (show "grid" = "placement" from hname) (by decide)
  placement := by
    intro inner hinner entry hentry
    obtain ⟨set, before, after, hset, hafter⟩ := exists_set_of_setEntries? h hinner
    obtain ⟨hname, -⟩ | ⟨-, rfl⟩ := eq_or_eq_of_lookup hset
    · exact absurd (show "placement" = "grid" from hname) (by decide)
    · obtain ⟨set, -, -, hset, -⟩ := exists_set_of_setEntries? hafter hentry
      exact (eq_or_eq_of_lookup hset).imp And.left And.left

/-- **A file with an unknown key is refused**, and no command begins with it. -/
theorem config_of_not_knownKeys {i : Inputs} {path text : String}
    {entries : List (String × Toml)} (hfile : i.files path = .ok text)
    (hread : Toml.read? text = some entries) (h : ¬ KnownKeys entries) :
    i.config (some path) = .error (.invalidConfig path) := by
  have hnone : ofText? text = none := by
    rw [ofText?, hread, Option.bind_some]
    cases hc : ofEntries? entries with
    | none => rfl
    | some c => exact absurd (knownKeys_of_ofEntries? hc) h
  simp [Inputs.config, hfile, hnone]

/-! ## Documents of configurations -/

variable {c : Config}

/-- The values of the table about the grid. -/
def gridEntries (c : Config) : List (String × Toml) :=
  (c.gridSize.map fun n => ("size", .integer n)).toList ++
    (c.mask.map fun path => ("mask", .string path)).toList

/-- The values of the table about placement. -/
def placementEntries (c : Config) : List (String × Toml) :=
  (c.searchRadius.map fun n => ("search_radius", .integer n)).toList ++
    (c.defaultCenter.map fun center =>
      ("default_center", .array ([center.row, center.col].map .integer))).toList

/-- The tables of a configuration. -/
def tables (c : Config) : List Toml.Table :=
  [("grid", c.gridEntries), ("placement", c.placementEntries)]

/-- What a configuration can be given in a document: numbers that fit their words. -/
structure Fits (c : Config) : Prop where
  size : ∀ n ∈ c.gridSize, n ≤ maxInt64
  radius : ∀ n ∈ c.searchRadius, n ≤ maxWord32
  center : ∀ center ∈ c.defaultCenter,
    (minInt64 ≤ center.row ∧ center.row ≤ maxInt64) ∧
      minInt64 ≤ center.col ∧ center.col ≤ maxInt64

theorem natUpTo?_integer {n bound : Nat} (h : n ≤ bound) :
    (Toml.integer n).natUpTo? bound = some n := by
  have hwithin : (0 : Int) ≤ n ∧ (n : Int) ≤ bound := by omega
  simp [Toml.natUpTo?, Toml.intWithin?, hwithin.2]

theorem setTable?_gridEntries (hfits : c.Fits) :
    setTable? gridFields {} (.table c.gridEntries) =
      some { gridSize := c.gridSize, mask := c.mask } := by
  obtain ⟨size, mask, radius, center⟩ := c
  have hmask : ∀ d path, setMask? d (.string path) = some { d with mask := path } :=
    fun _ _ => rfl
  rw [setTable?, gridEntries]
  cases size with
  | none => cases mask <;> simp [setEntries?, gridFields, List.lookup_cons, hmask]
  | some n =>
    have hbound : (n : Int) ≤ maxInt64 := hfits.size n rfl
    have hword : n ≤ maxWord64 := by
      rw [maxInt64] at hbound
      rw [maxWord64]
      omega
    have hsize : setGridSize? {} (.integer n) = some { gridSize := n } := by
      rw [setGridSize?, natUpTo?_integer hword]
      rfl
    cases mask <;> simp [setEntries?, gridFields, List.lookup_cons, hmask, hsize]

theorem setTable?_placementEntries (hfits : c.Fits) :
    setTable? placementFields { gridSize := c.gridSize, mask := c.mask }
      (.table c.placementEntries) = some c := by
  obtain ⟨size, mask, radius, center⟩ := c
  have hplace : ∀ d (center : Cell), setDefaultCenter? d
      (.array [.integer center.row, .integer center.col]) =
      some { d with defaultCenter := center } := fun _ _ => rfl
  rw [setTable?, placementEntries]
  cases radius with
  | none => cases center <;> simp [setEntries?, placementFields, List.lookup_cons, hplace]
  | some n =>
    have hradius : ∀ d, setSearchRadius? d (.integer n) = some { d with searchRadius := n } := by
      intro d
      rw [setSearchRadius?, natUpTo?_integer (hfits.radius n rfl)]
      rfl
    cases center <;> simp [setEntries?, placementFields, List.lookup_cons, hplace, hradius]

/-- A configuration is made of its tables. -/
theorem ofEntries?_tables (hfits : c.Fits) :
    ofEntries? (c.tables.map fun table => (table.1, .table table.2)) = some c := by
  simp [ofEntries?, tables, setEntries?, List.lookup_cons, setTable?_gridEntries hfits,
    setTable?_placementEntries hfits]

theorem distinct_tables (c : Config) : Toml.Distinct c.tables where
  names := show ["grid", "placement"].Nodup by decide
  keys := by
    obtain ⟨size, mask, radius, center⟩ := c
    refine List.forall_mem_cons.mpr ⟨?_, List.forall_mem_singleton.mpr ?_⟩
    · cases size <;> cases mask <;> simp [gridEntries]
    · cases radius <;> cases center <;> simp [placementEntries]

/-- **Every spelling of a configuration is read as it.** -/
theorem ofText?_of_spells {text : String} (h : Toml.Spells c.tables text) (hfits : c.Fits) :
    ofText? text = some c := by
  rw [ofText?, Toml.read?_of_spells h c.distinct_tables, Option.bind_some,
    ofEntries?_tables hfits]

/-- A file with such a text gives the configuration, its mask taken from the folder of the
file. -/
theorem config_of_spells {i : Inputs} {path text : String} (hfile : i.files path = .ok text)
    (h : Toml.Spells c.tables text) (hfits : c.Fits) :
    i.config (some path) = .ok (c.rebase path) := by
  simp [Inputs.config, hfile, ofText?_of_spells h hfits]

/-- A document with a comment and an empty line. -/
example : ofText? ("[grid]\nsize = 40\nmask = \"island.txt\"  # the land\n\n" ++
    "[placement]\nsearch_radius = 20\ndefault_center = [20, 20]\n") =
      some { gridSize := some 40, mask := some "island.txt", searchRadius := some 20,
             defaultCenter := some ⟨20, 20⟩ } := by decide +kernel

/-- No key of a configuration needs quotes. -/
theorem isBareKey_of_mem {key : String}
    (h : key ∈ ["grid", "size", "mask", "placement", "search_radius", "default_center"]) :
    Toml.IsBareKey key := by
  have hall : ∀ key ∈ ["grid", "size", "mask", "placement", "search_radius", "default_center"],
      Toml.IsBareKey key := by decide
  exact hall key h

theorem spellsValue_of_mem_gridEntries (hfits : c.Fits) {entry : String × Toml}
    (h : entry ∈ c.gridEntries) :
    Toml.IsBareKey entry.1 ∧ ∃ cs, Toml.SpellsValue entry.2 cs := by
  simp only [gridEntries, List.mem_append, Option.mem_toList,
    Option.map_eq_some_iff] at h
  obtain ⟨n, hn, rfl⟩ | ⟨path, -, rfl⟩ := h
  · have hlow : minInt64 ≤ n := by
      rw [minInt64]
      omega
    exact ⟨isBareKey_of_mem (by simp), _, .integer hlow (hfits.size n hn)⟩
  · obtain ⟨cs, hcs⟩ := Toml.exists_spellsText path.toList
    exact ⟨isBareKey_of_mem (by simp), _, .string hcs⟩

theorem spellsValue_of_mem_placementEntries (hfits : c.Fits) {entry : String × Toml}
    (h : entry ∈ c.placementEntries) :
    Toml.IsBareKey entry.1 ∧ ∃ cs, Toml.SpellsValue entry.2 cs := by
  simp only [placementEntries, List.mem_append, Option.mem_toList,
    Option.map_eq_some_iff] at h
  obtain ⟨n, hn, rfl⟩ | ⟨center, hcenter, rfl⟩ := h
  · have hbound := hfits.radius n hn
    rw [maxWord32] at hbound
    have hlow : minInt64 ≤ n := by
      rw [minInt64]
      omega
    have hhigh : (n : Int) ≤ maxInt64 := by
      rw [maxInt64]
      omega
    exact ⟨isBareKey_of_mem (by simp), _, .integer hlow hhigh⟩
  · obtain ⟨⟨hrowLow, hrowHigh⟩, hcolLow, hcolHigh⟩ := hfits.center center hcenter
    have hnone : Toml.IsFiller [] := fun _ hc => nomatch hc
    exact ⟨isBareKey_of_mem (by simp), _, .integers (.next hnone hnone hrowLow hrowHigh
      (.last hnone hnone hcolLow hcolHigh))⟩

/-- Every configuration has a spelling. -/
theorem exists_spells (hfits : c.Fits) : ∃ text, Toml.Spells c.tables text := by
  have hnames : ∀ table ∈ c.tables, Toml.IsBareKey table.1 :=
    List.forall_mem_cons.mpr ⟨isBareKey_of_mem (by simp),
      List.forall_mem_singleton.mpr (isBareKey_of_mem (by simp))⟩
  have hentries : ∀ table ∈ c.tables, ∀ entry ∈ table.2,
      Toml.IsBareKey entry.1 ∧ ∃ cs, Toml.SpellsValue entry.2 cs :=
    List.forall_mem_cons.mpr ⟨fun _ => spellsValue_of_mem_gridEntries hfits,
      List.forall_mem_singleton.mpr fun _ => spellsValue_of_mem_placementEntries hfits⟩
  obtain ⟨cs, hcs⟩ := Toml.exists_spellsLines hnames hentries
  refine ⟨String.ofList cs, ?_⟩
  rw [Toml.Spells, String.toList_ofList]
  exact hcs

end CityScript.Config

namespace CityScript.Settings

variable {s : Settings}

/-! ## Documents of settings -/

/-- Settings that a document can hold: numbers that fit their words. -/
structure Fits (s : Settings) : Prop where
  size : s.gridSize ≤ maxWord64
  radius : ∀ n ∈ s.searchRadius, n ≤ maxWord32
  center : ∀ center ∈ s.defaultCenter,
    (minInt64 ≤ center.row ∧ center.row ≤ maxInt64) ∧
      minInt64 ≤ center.col ∧ center.col ≤ maxInt64

/-- No integer is written as a zero with a minus. -/
theorem int?_ofInt (n : Int) : (Json.ofInt n).int? = some n := by
  have hread := readInt?_toString n
  have hzero : toString n ≠ "-0" := by
    intro h
    have hn : n = 0 := by
      rw [h] at hread
      exact (Option.some.inj hread).symm
    rw [hn] at h
    exact absurd h (by decide)
  rw [Json.ofInt, Json.int?, if_neg hzero, hread]

theorem intWithin?_ofInt {low high n : Int} (hlow : low ≤ n) (hhigh : n ≤ high) :
    intWithin? low high (.ofInt n) = some n := by
  simp [intWithin?, int?_ofInt, hlow, hhigh]

theorem natUpTo?_ofNat {n bound : Nat} (h : n ≤ bound) :
    natUpTo? bound (.ofNat n) = some n := by
  have hn : Json.ofNat n = Json.ofInt n := rfl
  rw [natUpTo?, hn, intWithin?_ofInt (by omega) (by omega)]
  rfl

theorem cell?_list {row col : Int} (hrow : minInt64 ≤ row ∧ row ≤ maxInt64)
    (hcol : minInt64 ≤ col ∧ col ≤ maxInt64) :
    cell? (.list [.ofInt row, .ofInt col]) = some ⟨row, col⟩ := by
  simp [cell?, Json.items?, intWithin?_ofInt hrow.1 hrow.2, intWithin?_ofInt hcol.1 hcol.2]

/-- A part that is not set is null, and null is read as it. -/
theorem optional?_ofOption {α : Type} {read? : Json → Option α} {f : α → Json} {o : Option α}
    (h : ∀ a ∈ o, read? (f a) = some a ∧ f a ≠ .null) :
    optional? read? (.ofOption f o) = some o := by
  cases o with
  | none => rfl
  | some a =>
    obtain ⟨hread, hnull⟩ := h a rfl
    unfold optional?
    split
    · next heq => exact absurd heq hnull
    · rw [Json.ofOption, hread]
      rfl

theorem wellFormed_toJson (s : Settings) : s.toJson.WellFormed := by
  have hoption : ∀ {α : Type} {f : α → Json}, (∀ a, (f a).WellFormed) →
      ∀ o, (Json.ofOption f o).WellFormed := by
    intro α f hf o
    cases o with
    | none => exact .null
    | some a => exact hf a
  refine .member (by decide) (Json.wellFormed_ofNat _) <|
    .member (by decide) (hoption Json.wellFormed_ofNat _) <|
    .member (by decide) (hoption (fun center => ?_) _) .noMembers
  exact .list (List.forall_mem_cons.mpr ⟨Json.wellFormed_ofInt _,
    List.forall_mem_singleton.mpr (Json.wellFormed_ofInt _)⟩)

/-- Settings are taken out of their document as they are. -/
theorem ofJson?_toJson (hfits : s.Fits) : ofJson? s.toJson = some s := by
  have hsize : ∀ d, setGridSize? d (.ofNat s.gridSize) = some { d with gridSize := s.gridSize } := by
    intro d
    rw [setGridSize?, natUpTo?_ofNat hfits.size]
    rfl
  have hradius : ∀ d, setSearchRadius? d (.ofOption .ofNat s.searchRadius) =
      some { d with searchRadius := s.searchRadius } := by
    intro d
    rw [setSearchRadius?, optional?_ofOption fun n hn =>
      ⟨natUpTo?_ofNat (hfits.radius n hn), fun h => nomatch h⟩]
    rfl
  have hcenter : ∀ d, setDefaultCenter? d (.ofOption
      (fun c => .list [.ofInt c.row, .ofInt c.col]) s.defaultCenter) =
      some { d with defaultCenter := s.defaultCenter } := by
    intro d
    rw [setDefaultCenter?, optional?_ofOption fun center hcenter =>
      ⟨cell?_list (hfits.center center hcenter).1 (hfits.center center hcenter).2,
        fun h => nomatch h⟩]
    rfl
  have hkeys : ∀ key ∈ ["grid_size", "search_radius", "default_center"],
      Json.lexemeText? key = some key := by decide
  simp [toJson, ofJson?, ofMembers?, hkeys, fields, List.lookup_cons, hsize, hradius, hcenter]

/-- **Settings are read back from the text of their document**, with line ends or without. -/
theorem ofText?_toJson (hfits : s.Fits) :
    ofText? (s.toJson.pretty ++ "\n") = some s ∧ ofText? (s.toJson.compact ++ "\n") = some s := by
  rw [ofText?, Json.read?_pretty s.wellFormed_toJson, ofText?,
    Json.read?_compact s.wellFormed_toJson, Option.bind_some, ofJson?_toJson hfits]
  exact ⟨rfl, rfl⟩

end CityScript.Settings
