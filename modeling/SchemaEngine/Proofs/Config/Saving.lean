import SchemaEngine.Proofs.Config.Acceptance
import SchemaEngine.Proofs.Json.RoundTrip
import SchemaEngine.Workspace.Basic

/-!
# Settings that are saved

Settings that were accepted are accepted again when they are saved, and nothing changes: each of
their fields stood in a document that keeps the rules, or is a default, which keeps them too. Saved
settings that keep the rules can be used, so what cannot be used is refused when it is loaded again.

## Main definitions

* `Settings.SavedAs`: the texts that settings are saved as.

## Main results

* `Settings.read_of_savedAs`: such a text is read as the object that the settings are saved as.
* `Settings.check_toJson`: accepted settings keep the rules when they are saved.
* `Settings.ofJson_toJson`: they are read again as they were.
* `Settings.problem_eq_none`: what keeps the rules can be used.
* `settings_saved`: all of it, for texts and workspaces.
-/

set_option autoImplicit false

namespace SchemaEngine

namespace Settings

/-! ### The saved object -/

/-- The entries of the object that settings are saved as. -/
def entries (s : Settings) : List (String × Json) := [
  ("configFileNames", .ofTexts s.configFileNames),
  ("fileTypes", .ofTexts s.fileTypes),
  ("flushDebounceMs", .ofNat s.flushDebounceMs.toNat),
  ("logLevel", .string s.logLevel),
  ("metaRoots", .ofTexts s.metaRoots),
  ("schemaCacheCapacity", .ofNat s.schemaCacheCapacity.toNat),
  ("scopeCacheCapacity", .ofNat s.scopeCacheCapacity.toNat)]

theorem toJson_eq (s : Settings) : s.toJson = .object s.entries :=
  rfl

/-- The texts that settings are saved as: the fields stand in any order, as that of the structure or
that of the keys. -/
def SavedAs (s : Settings) (text : String) : Prop :=
  ∃ entries, entries.Perm s.entries ∧ text = Json.write (.object entries)

/-- The entries in the order of the fields of the structure. -/
def declared (s : Settings) : List (String × Json) := [
  ("configFileNames", .ofTexts s.configFileNames),
  ("fileTypes", .ofTexts s.fileTypes),
  ("flushDebounceMs", .ofNat s.flushDebounceMs.toNat),
  ("schemaCacheCapacity", .ofNat s.schemaCacheCapacity.toNat),
  ("scopeCacheCapacity", .ofNat s.scopeCacheCapacity.toNat),
  ("logLevel", .string s.logLevel),
  ("metaRoots", .ofTexts s.metaRoots)]

theorem savedAs_declared (s : Settings) : s.SavedAs (Json.write (.object s.declared)) := by
  refine ⟨_, ?_, rfl⟩
  have hswap := @List.perm_append_comm (String × Json)
    [("schemaCacheCapacity", .ofNat s.schemaCacheCapacity.toNat),
      ("scopeCacheCapacity", .ofNat s.scopeCacheCapacity.toNat)]
    [("logLevel", .string s.logLevel), ("metaRoots", .ofTexts s.metaRoots)]
  exact ((hswap.cons _).cons _).cons _

theorem savedAs_write (s : Settings) : s.SavedAs s.toJson.write :=
  ⟨_, .refl _, rfl⟩

theorem increasing_entries (s : Settings) : Sorted.Increasing Json.keyOrder s.entries := by
  have hkeys : (s.entries.map (·.1)).Pairwise fun x y => compare x y = .lt := by
    change List.Pairwise _ ["configFileNames", "fileTypes", "flushDebounceMs", "logLevel",
      "metaRoots", "schemaCacheCapacity", "scopeCacheCapacity"]
    decide
  exact List.pairwise_map.mp hkeys

theorem writable_ofTexts (depth : Nat) (texts : List String) :
    Json.Writable (depth + 1) (.ofTexts texts) := by
  refine .array depth _ fun item hitem => ?_
  obtain ⟨text, -, rfl⟩ := List.mem_map.mp hitem
  exact .string depth text

theorem writable_ofNat (depth : Nat) (n : UInt64) : Json.Writable depth (.ofNat n.toNat) := by
  have hbound := n.toNat_lt
  exact .integer depth _ (by omega) (by omega)

theorem writable_entries (s : Settings) (depth : Nat) :
    ∀ entry ∈ s.entries, Json.Writable (depth + 1) entry.2 := by
  simp only [entries, List.forall_mem_cons, writable_ofTexts, writable_ofNat, Json.Writable.string,
    List.not_mem_nil, false_implies, implies_true, and_self]

theorem wellFormed_toJson (s : Settings) : s.toJson.WellFormed :=
  .object _ s.increasing_entries fun entry hentry =>
    (s.writable_entries 0 entry hentry).wellFormed

/-- A text that settings are saved as is read as their object. -/
theorem read_of_savedAs {s : Settings} {text : String} (h : s.SavedAs text) :
    Json.read text = .ok s.toJson := by
  obtain ⟨entries, hperm, rfl⟩ := h
  exact Json.read_write_object hperm s.increasing_entries (s.writable_entries _)

/-! ### Fields by their keys -/

theorem at?_entries (s : Settings) (key : String) : Keyed.at? key s.entries = s.value? key :=
  rfl

theorem mem_keys_of_mem_entries {s : Settings} {entry : String × Json} (h : entry ∈ s.entries) :
    entry.1 ∈ keys := by
  simp only [entries, List.mem_cons, List.not_mem_nil, or_false] at h
  rcases h with rfl | rfl | rfl | rfl | rfl | rfl | rfl <;> simp [keys]

/-- The values of all fields are known by their keys, whatever the settings. -/
theorem or_value? (s t : Settings) (key : String) :
    (s.value? key).or (t.value? key) = s.value? key := by
  rw [value?_eq, value?_eq]
  split_ifs <;> rfl

/-- Settings are the same if their fields have the same values. -/
theorem eq_of_value? {s t : Settings} (h : ∀ key, s.value? key = t.value? key) : s = t := by
  have hnames := ofTexts_inj (Option.some.inj (h "configFileNames"))
  have htypes := ofTexts_inj (Option.some.inj (h "fileTypes"))
  have hdelay := ofNat_toNat_inj (Option.some.inj (h "flushDebounceMs"))
  have hschemas := ofNat_toNat_inj (Option.some.inj (h "schemaCacheCapacity"))
  have hscopes := ofNat_toNat_inj (Option.some.inj (h "scopeCacheCapacity"))
  have hlevel := Json.string.inj (Option.some.inj (h "logLevel"))
  have hroots := ofTexts_inj (Option.some.inj (h "metaRoots"))
  cases s
  cases t
  simp only at hnames htypes hdelay hschemas hscopes hlevel hroots
  subst hnames htypes hdelay hschemas hscopes hlevel hroots
  rfl

/-! ### Settings that were accepted -/

/-- The settings keep the rules if the value of each field keeps the rule of its key. -/
theorem check_toJson_iff {s : Settings} : Rules.check s.toJson = none ↔
    ∀ field ∈ Rules.fields, ∀ value ∈ s.value? field.1, field.2.Keeps value := by
  have hkeys : ∀ entry ∈ s.entries, entry.1 ∈ Rules.fields.map (·.1) := fun entry hentry =>
    mem_keys_of_mem_entries hentry
  have hrules := Rules.keeps_iff (Json.nodup_keys s.increasing_entries)
  rw [Rules.check_eq_none_iff]
  constructor
  · rintro ⟨entries, heq, hkeeps⟩
    cases heq
    exact (hrules.mp hkeeps).2
  · exact fun hfields => ⟨_, s.toJson_eq, hrules.mpr ⟨hkeys, hfields⟩⟩

/-- The defaults keep the rules. -/
theorem check_default : Rules.check (toJson {}) = none :=
  rfl

/-- Accepted settings keep the rules when they are saved: each field has the value that it has in
the document, or that of the defaults. -/
theorem check_toJson {document : Json} {s : Settings} (hwell : document.WellFormed)
    (h : ofJson document = .ok s) : Rules.check s.toJson = none := by
  unfold ofJson at h
  split at h
  · cases h
  · rename_i hcheck
    split at h <;> cases h
    rename_i hdecode
    obtain ⟨entries, rfl, hrules⟩ := Rules.check_eq_none_iff.mp hcheck
    cases hwell with
    | object _ hincreasing _ =>
      have hdistinct := Json.nodup_keys hincreasing
      obtain ⟨hkeys, hfields⟩ := (Rules.keeps_iff hdistinct).mp hrules
      refine check_toJson_iff.mpr fun field hfield value hvalue => ?_
      rw [value?_decodeEntries hdistinct hkeys hdecode, Option.mem_def,
        Option.or_eq_some_iff] at hvalue
      rcases hvalue with hdocument | ⟨-, hdefault⟩
      · exact hfields field hfield value hdocument
      · exact check_toJson_iff.mp check_default field hfield value hdefault

theorem not_holdsReal_toJson (s : Settings) : ¬ HoldsReal s.toJson := by
  rintro ⟨key, hkey, x, -, hvalue⟩
  simp only [countKeys, List.mem_cons, List.not_mem_nil, or_false] at hkey
  rcases hkey with rfl | rfl | rfl <;> cases hvalue

/-- Settings that keep the rules are read again as they were saved. -/
theorem ofJson_toJson {s : Settings} (h : Rules.check s.toJson = none) :
    ofJson s.toJson = .ok s := by
  obtain ⟨t, ht⟩ := (exists_decode_iff s.wellFormed_toJson h).mpr s.not_holdsReal_toJson
  have hvalues := value?_decodeEntries (Json.nodup_keys s.increasing_entries)
    (fun entry hentry => mem_keys_of_mem_entries hentry) ht
  have hsame : t = s := eq_of_value? fun key => by
    rw [hvalues, at?_entries, or_value?]
  rw [ofJson, h, ht, hsame]

/-- Settings that keep the rules can be used. -/
theorem problem_eq_none {s : Settings} (h : Rules.check s.toJson = none) : s.problem = none := by
  have hdescribed := (check_eq_none_iff_described s.wellFormed_toJson).mp h
  obtain ⟨types, htypes, hsome, -⟩ := hdescribed.fileTypes _ rfl
  have hroom : ∀ n : UInt64, IsWhole 1 (.ofNat n.toNat) → n ≠ 0 := by
    rintro n ⟨x, heq, -, hleast⟩ rfl
    cases heq
    exact hleast rfl
  have hschemas := hroom _ (hdescribed.schemaCacheCapacity _ rfl)
  have hscopes := hroom _ (hdescribed.scopeCacheCapacity _ rfl)
  rw [← ofTexts_inj htypes] at hsome
  simp [problem, hsome, hschemas, hscopes]

/-- Settings that cannot be used are refused when they are loaded again. -/
theorem ofJson_toJson_of_problem {s : Settings} (h : s.problem ≠ none) :
    ∃ v, ofJson s.toJson = .error (.violation v) := by
  cases hcheck : Rules.check s.toJson with
  | none => exact absurd (problem_eq_none hcheck) h
  | some v => exact ⟨v, by rw [ofJson, hcheck]⟩

end Settings

open Settings in
/-- Settings that are saved. Whatever text was accepted, the settings that it gives are accepted
again in every text that they are saved as, and in every other text that is read as the same value;
they come back as they were, and a workspace can be set up with them wherever its tasks can run.
Settings that a workspace refuses are refused in every text that they are saved as, since they break
the rules of the document. -/
theorem settings_saved {J H : Type} :
    (∀ (text : String) (s : Settings), ofText text = .ok s →
      (∀ saved, s.SavedAs saved → ofText saved = .ok s) ∧
        (∀ saved, Json.read saved = .ok s.toJson → ofText saved = .ok s) ∧
        ∀ (root : Path) (site : Site H), ∃ workspace : Workspace J H,
          Workspace.init true root s site = .ok workspace) ∧
      ∀ (s : Settings) (root : Path) (site : Site H) (e : EngineError),
        (Workspace.init true root s site : Except EngineError (Workspace J H)) = .error e →
          ∀ saved, s.SavedAs saved → ∃ v, ofText saved = .error (.config (.violation v)) := by
  constructor
  case left =>
    intro text s h
    obtain ⟨document, hread, hsettings⟩ := read_of_ofText h
    have hcheck := check_toJson (Json.wellFormed_of_read hread) hsettings
    have hagain : ∀ saved, Json.read saved = .ok s.toJson → ofText saved = .ok s := by
      intro saved hread
      rw [ofText_of_read hread, ofJson_toJson hcheck]
      rfl
    refine ⟨fun saved hsaved => hagain saved (read_of_savedAs hsaved), hagain, ?_⟩
    intro root site
    rw [Workspace.init, if_pos rfl, problem_eq_none hcheck]
    exact ⟨_, rfl⟩
  case right =>
    intro s root site e h saved hsaved
    have hproblem : s.problem ≠ none := by
      intro hnone
      rw [Workspace.init, if_pos rfl, hnone] at h
      cases h
    obtain ⟨v, hv⟩ := ofJson_toJson_of_problem hproblem
    exact ⟨v, by rw [ofText_of_read (read_of_savedAs hsaved), hv]; rfl⟩

section Example

open Settings

/-- Settings with a directory whose name needs escapes. -/
def escapedSettings : Settings where
  metaRoots := ["\x01\"\\é"]

/-- The text that gives them. -/
def escapedText : String :=
  "\x7b\"metaRoots\":[\"\\u0001\\\"\\\\\\u00e9\"]\x7d"

/-- A directory whose name needs escapes is found again when the settings are saved in the order of
their fields; settings that admit no file type are refused. -/
theorem settings_saved_escapes :
    ofText (Json.write (.object escapedSettings.declared)) = .ok escapedSettings ∧
      ∃ v, ofText (toJson { fileTypes := [] }).write = .error (.config (.violation v)) := by
  obtain ⟨hsaved, hrefused⟩ := @settings_saved Unit Unit
  exact ⟨(hsaved escapedText escapedSettings rfl).1 _ (savedAs_declared _),
    hrefused { fileTypes := [] } ⟨[47]⟩ { host := () } _ rfl _ (savedAs_write _)⟩

end Example

end SchemaEngine
