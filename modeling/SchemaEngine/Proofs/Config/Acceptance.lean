import SchemaEngine.Config.Load
import SchemaEngine.Proofs.Json.Reading

/-!
# The settings that are accepted

The rules of a settings document and the fields that it is read into describe the same values, but
for one thing: the rules admit whole numbers in floating-point form, and the fields do not. Integers
are in the range of a field already if they keep its rule, since a text holds no greater ones.

## Main definitions

* `Rules.Rule.Keeps`: the values that keep a rule.
* `Settings.Described`: the documents of a form, for what may stand for a count.
* `Settings.TakenFrom`: every field is taken as it stands, or has its default.

## Main results

* `Rules.violation_eq_none_iff`, `Rules.check_eq_none_iff`: what the check lets pass.
* `Settings.decodeEntries_spec`: what entries are read into.
* `settings_language`: which texts are accepted, what they give, and where the others fail.
-/

set_option autoImplicit false

namespace SchemaEngine

/-- A list of texts as a value. -/
def Json.ofTexts (texts : List String) : Json :=
  .array (texts.map .string)

/-! ### The rules -/

namespace Rules

/-- A text that is not empty, and has the form of a pattern if there is one. -/
def KeepsText (pattern : Option Pattern) (text : String) : Prop :=
  text ≠ "" ∧ ∀ p ∈ pattern, ∀ c ∈ text.toList, p.admits c = true

/-- The values that keep a rule. -/
def Rule.Keeps : Rule → Json → Prop
  | .texts pattern someItem distinct, value =>
    ∃ texts, value = .ofTexts texts ∧ (someItem = true → texts ≠ []) ∧
      (distinct = true → texts.Nodup) ∧ ∀ text ∈ texts, KeepsText pattern text
  | .count least, value =>
    ∃ x, value = .number x ∧ x.isIntegral = true ∧ x.orderInt least ≠ .lt
  | .choice options, value => ∃ text ∈ options, value = .string text

/-- The values that the field of a rule is read from. -/
def Rule.Reads : Rule → Json → Prop
  | .texts _ _ _, value => ∃ texts, value = .ofTexts texts
  | .count _, value => ∃ n : UInt64, value = .ofNat n.toNat
  | .choice _, value => ∃ text, value = .string text

theorem textBreach_eq_none_iff {pattern : Option Pattern} {value : Json} :
    textBreach pattern value = none ↔ ∃ text, value = .string text ∧ KeepsText pattern text := by
  unfold textBreach
  split
  · rename_i text
    simp only [Json.string.injEq, exists_eq_left', KeepsText]
    by_cases hempty : text = ""
    · simp [hempty]
    · have hchars : text.toList ≠ [] := fun h => hempty (String.toList_eq_nil_iff.mp h)
      cases pattern <;> simp [hempty, Pattern.holds, hchars]
  · rename_i hother
    simp only [reduceCtorEq, false_iff, not_exists, not_and]
    exact fun text heq => absurd heq (hother text)

theorem itemViolation_eq_none_iff {pattern : Option Pattern} {position : Nat}
    {items : List Json} : itemViolation pattern position items = none ↔
      ∃ texts : List String,
        items = texts.map .string ∧ ∀ text ∈ texts, KeepsText pattern text := by
  induction items generalizing position with
  | nil =>
    exact ⟨fun _ => ⟨[], rfl, fun _ h => by cases h⟩, fun _ => rfl⟩
  | cons item items ih =>
    rw [itemViolation]
    constructor
    · intro h
      split at h
      · cases h
      · rename_i hnone
        obtain ⟨text, rfl, htext⟩ := textBreach_eq_none_iff.mp hnone
        obtain ⟨texts, rfl, htexts⟩ := ih.mp h
        exact ⟨text :: texts, rfl, List.forall_mem_cons.mpr ⟨htext, htexts⟩⟩
    · rintro ⟨texts, hitems, htexts⟩
      cases texts with
      | nil => cases hitems
      | cons text texts =>
        obtain ⟨rfl, rfl⟩ := List.cons.inj hitems
        obtain ⟨htext, hrest⟩ := List.forall_mem_cons.mp htexts
        rw [textBreach_eq_none_iff.mpr ⟨text, rfl, htext⟩]
        exact ih.mpr ⟨texts, rfl, hrest⟩

/-- Texts are repeated where they are equal, in either way to compare them. -/
theorem hasRepeated_texts {same : Json → Json → Bool}
    (hsame : ∀ s t : String, same (.string s) (.string t) = (s == t)) (texts : List String) :
    hasRepeated same (texts.map .string) = false ↔ texts.Nodup := by
  induction texts with
  | nil => simp [hasRepeated]
  | cons text texts ih =>
    have hmember : (texts.map Json.string).any (same (.string text)) = false ↔ text ∉ texts := by
      simp only [List.any_map, Function.comp_def, hsame, List.any_eq_false, beq_iff_eq]
      exact ⟨fun h hmem => h text hmem rfl, fun h other hother heq => h (heq ▸ hother)⟩
    rw [List.map_cons, hasRepeated, Bool.or_eq_false_iff, hmember, ih, List.nodup_cons]

theorem areDistinct_texts (texts : List String) :
    areDistinct (texts.map .string) = true ↔ texts.Nodup := by
  unfold areDistinct
  split
  · rw [Bool.not_eq_true', hasRepeated_texts fun _ _ => rfl]
  · rw [Bool.not_eq_true', hasRepeated_texts fun _ _ => rfl]

/-- What has no violation of a rule keeps it. -/
theorem violation_eq_none_iff {rule : Rule} {value : Json} :
    rule.violation value = none ↔ rule.Keeps value := by
  cases rule with
  | texts pattern someItem distinct =>
    cases value with
    | array items =>
      simp only [Rule.violation, Rule.Keeps, Json.ofTexts, Json.array.injEq]
      constructor
      · intro h
        split at h
        · cases h
        split at h
        · cases h
        rename_i hsome hdistinct
        obtain ⟨texts, rfl, htexts⟩ := itemViolation_eq_none_iff.mp h
        refine ⟨texts, rfl, fun hneeded hnil => hsome ?_, fun hneeded => ?_, htexts⟩
        · simp [hneeded, hnil]
        · simpa [hneeded, areDistinct_texts] using hdistinct
      · rintro ⟨texts, rfl, hsome, hdistinct, htexts⟩
        have hnoItem : ¬ (someItem && (texts.map Json.string).isEmpty) = true := by
          simpa using hsome
        have hrepeated : ¬ (distinct && !areDistinct (texts.map .string)) = true := by
          simpa [areDistinct_texts] using hdistinct
        rw [if_neg hnoItem, if_neg hrepeated]
        exact itemViolation_eq_none_iff.mpr ⟨texts, rfl, htexts⟩
    | _ => simp [Rule.violation, Rule.Keeps, Json.ofTexts]
  | count least =>
    cases value with
    | number x =>
      cases hwhole : x.isIntegral <;> by_cases hleast : x.orderInt least = .lt <;>
        simp [Rule.violation, Rule.Keeps, hwhole, hleast]
    | _ => simp [Rule.violation, Rule.Keeps]
  | choice options =>
    cases value with
    | string text => simp [Rule.violation, Rule.Keeps]
    | _ => simp [Rule.violation, Rule.Keeps]

theorem entryViolation_eq_none_iff {entry : String × Json} :
    entryViolation entry = none ↔
      ∃ rule, rule? entry.1 = some rule ∧ rule.Keeps entry.2 := by
  unfold entryViolation
  cases rule? entry.1 <;> simp [violation_eq_none_iff]

/-- What the check lets pass are objects whose entries keep the rules of their keys. -/
theorem check_eq_none_iff {document : Json} : check document = none ↔
    ∃ entries, document = .object entries ∧
      ∀ entry ∈ entries, ∃ rule, rule? entry.1 = some rule ∧ rule.Keeps entry.2 := by
  cases document <;> simp [check, List.findSome?_eq_none_iff, entryViolation_eq_none_iff]

theorem nodup_fields : (fields.map (·.1)).Nodup := by
  decide

theorem rule?_eq_some_iff {key : String} {rule : Rule} :
    rule? key = some rule ↔ (key, rule) ∈ fields :=
  Keyed.at?_eq_some_iff nodup_fields

/-- The rules of the entries, key by key. -/
theorem keeps_iff {entries : List (String × Json)} (h : (entries.map (·.1)).Nodup) :
    (∀ entry ∈ entries, ∃ rule, rule? entry.1 = some rule ∧ rule.Keeps entry.2) ↔
      (∀ entry ∈ entries, entry.1 ∈ fields.map (·.1)) ∧
        ∀ field ∈ fields, ∀ value ∈ Json.entry? field.1 (.object entries),
          field.2.Keeps value := by
  constructor
  · intro hkeeps
    refine ⟨fun entry hentry => ?_, fun field hfield value hvalue => ?_⟩
    · obtain ⟨rule, hrule, -⟩ := hkeeps entry hentry
      exact List.mem_map_of_mem (f := (·.1)) (rule?_eq_some_iff.mp hrule)
    · obtain ⟨rule, hrule, hkept⟩ := hkeeps _ ((Keyed.at?_eq_some_iff h).mp hvalue)
      have hsame := hrule.symm.trans (rule?_eq_some_iff.mpr hfield)
      obtain rfl := Option.some.inj hsame
      exact hkept
  · rintro ⟨hkeys, hfields⟩ entry hentry
    obtain ⟨field, hfield, hkey⟩ := List.mem_map.mp (hkeys entry hentry)
    have hvalue : Json.entry? field.1 (.object entries) = some entry.2 := by
      rw [hkey]
      exact (Keyed.at?_eq_some_iff h).mpr hentry
    exact ⟨field.2, hkey ▸ rule?_eq_some_iff.mpr hfield, hfields field hfield entry.2 hvalue⟩

theorem keepsText_entryName {text : String} : KeepsText (some .entryName) text ↔
    text ≠ "" ∧ '/' ∉ text.toList ∧ '\\' ∉ text.toList := by
  simp only [KeepsText, Option.mem_def, Option.some.injEq, forall_eq', Pattern.admits,
    Bool.and_eq_true, bne_iff_ne]
  refine and_congr_right fun _ => ⟨fun h => ?_, fun h c hc => ?_⟩
  · exact ⟨fun hc => (h _ hc).1 rfl, fun hc => (h _ hc).2 rfl⟩
  · exact ⟨fun heq => h.1 (heq ▸ hc), fun heq => h.2 (heq ▸ hc)⟩

theorem keepsText_fileType {text : String} : KeepsText (some .fileType) text ↔
    text ≠ "" ∧ ∀ c ∈ text.toList, c.isAlphanum = true ∨ c = '_' ∨ c = '-' := by
  simp [KeepsText, Pattern.admits, or_assoc]

theorem keepsText_none {text : String} : KeepsText none text ↔ text ≠ "" := by
  simp [KeepsText]

end Rules

/-! ### The documents -/

namespace Settings

/-- A whole number of 64 bits that is not below `least`. -/
def IsCount (least : Nat) (value : Json) : Prop :=
  ∃ n : Nat, value = .ofNat n ∧ least ≤ n ∧ n < 2 ^ 64

/-- A whole number of any size and form that is not below `least`. -/
def IsWhole (least : Nat) (value : Json) : Prop :=
  ∃ x : Json.Number, value = .number x ∧ x.isIntegral = true ∧ x.orderInt least ≠ .lt

/-- The documents of settings, for what may stand for a count that is not below a number. -/
structure Described (count : Nat → Json → Prop) (document : Json) : Prop where
  keys : ∃ entries, document = .object entries ∧ ∀ entry ∈ entries, entry.1 ∈ keys
  configFileNames : ∀ value ∈ document.entry? "configFileNames",
    ∃ names : List String, value = .ofTexts names ∧ names.Nodup ∧
      ∀ name ∈ names, name ≠ "" ∧ '/' ∉ name.toList ∧ '\\' ∉ name.toList
  fileTypes : ∀ value ∈ document.entry? "fileTypes",
    ∃ types : List String, value = .ofTexts types ∧ types ≠ [] ∧ types.Nodup ∧
      ∀ type ∈ types, type ≠ "" ∧
        ∀ c ∈ type.toList, c.isAlphanum = true ∨ c = '_' ∨ c = '-'
  flushDebounceMs : ∀ value ∈ document.entry? "flushDebounceMs", count 0 value
  schemaCacheCapacity : ∀ value ∈ document.entry? "schemaCacheCapacity", count 1 value
  scopeCacheCapacity : ∀ value ∈ document.entry? "scopeCacheCapacity", count 1 value
  logLevel : ∀ value ∈ document.entry? "logLevel",
    ∃ level ∈ ["error", "warn", "info", "debug", "trace"], value = .string level
  metaRoots : ∀ value ∈ document.entry? "metaRoots",
    ∃ roots : List String, value = .ofTexts roots ∧ ∀ root ∈ roots, root ≠ ""

/-- The described documents keep the rules, key by key. -/
theorem described_iff {entries : List (String × Json)} :
    Described IsWhole (.object entries) ↔ (∀ entry ∈ entries, entry.1 ∈ keys) ∧
      ∀ field ∈ Rules.fields, ∀ value ∈ Json.entry? field.1 (.object entries),
        field.2.Keeps value := by
  simp only [Rules.fields, List.forall_mem_cons, Rules.Rule.Keeps, Rules.keepsText_entryName,
    Rules.keepsText_fileType, Rules.keepsText_none, Bool.false_eq_true, false_implies,
    true_implies, true_and, List.not_mem_nil, implies_true, and_true]
  constructor
  · rintro ⟨⟨_, heq, hkeys⟩, hnames, htypes, hdelay, hschemas, hscopes, hlevel, hroots⟩
    cases heq
    exact ⟨hkeys, hnames, htypes, hdelay, hschemas, hscopes, hlevel, hroots⟩
  · rintro ⟨hkeys, hnames, htypes, hdelay, hschemas, hscopes, hlevel, hroots⟩
    exact ⟨⟨_, rfl, hkeys⟩, hnames, htypes, hdelay, hschemas, hscopes, hlevel, hroots⟩

/-- The check lets the described documents pass, with whole numbers of any form for counts. -/
theorem check_eq_none_iff_described {document : Json} (h : document.WellFormed) :
    Rules.check document = none ↔ Described IsWhole document := by
  rw [Rules.check_eq_none_iff]
  cases h with
  | object entries hincreasing _ =>
    rw [described_iff]
    refine ⟨?_, fun hdescribed => ⟨entries, rfl, ?_⟩⟩
    · rintro ⟨_, heq, hrules⟩
      cases heq
      exact (Rules.keeps_iff (Json.nodup_keys hincreasing)).mp hrules
    · exact (Rules.keeps_iff (Json.nodup_keys hincreasing)).mpr hdescribed
  | _ =>
    refine iff_of_false ?_ fun hdescribed => ?_
    · rintro ⟨_, heq, -⟩
      cases heq
    · obtain ⟨_, heq, -⟩ := hdescribed.keys
      cases heq

/-! ### The fields -/

theorem decodeText_eq_ok_iff {expected : String} {value : Json} {text : String} :
    decodeText expected value = .ok text ↔ value = .string text := by
  cases value <;> simp [decodeText]

theorem decodeItems_eq_ok_iff {expected : String} {items : List Json} {texts : List String} :
    decodeItems expected items = .ok texts ↔ items = texts.map .string := by
  induction items generalizing texts with
  | nil => cases texts <;> simp [decodeItems]
  | cons item items ih =>
    constructor
    · intro h
      rw [decodeItems] at h
      split at h
      · cases h
      · rename_i text htext
        split at h <;> cases h
        rename_i rest hrest
        rw [decodeText_eq_ok_iff.mp htext, ih.mp hrest, List.map_cons]
    · intro h
      cases texts with
      | nil => cases h
      | cons text rest =>
        obtain ⟨rfl, hrest⟩ := List.cons.inj h
        simp only [decodeItems, decodeText, ih.mpr hrest]

theorem decodeTexts_eq_ok_iff {expected : String} {value : Json} {texts : List String} :
    decodeTexts expected value = .ok texts ↔ value = .ofTexts texts := by
  cases value <;> simp [decodeTexts, Json.ofTexts, decodeItems_eq_ok_iff]

theorem decodeCount_eq_ok_iff {value : Json} {n : UInt64} :
    decodeCount value = .ok n ↔ value = .ofNat n.toNat := by
  cases value with
  | number x =>
    cases x with
    | integer m =>
      simp only [decodeCount, Json.ofNat, Json.number.injEq, Json.Number.integer.injEq,
        Nat.pow_eq, Bool.or_eq_true, decide_eq_true_eq]
      have hn := n.toNat_lt
      split
      · rename_i hrange
        simp only [reduceCtorEq, false_iff]
        omega
      · rename_i hrange
        rw [Except.ok.injEq, ← UInt64.toNat_inj, UInt64.toNat_ofNat']
        omega
    | real x => simp [decodeCount, Json.ofNat]
  | _ => simp [decodeCount, Json.ofNat]

theorem map_eq_ok_iff {ε α β : Type} {outcome : Except ε α} {f : α → β} {y : β} :
    outcome.map f = .ok y ↔ ∃ x, outcome = .ok x ∧ f x = y := by
  cases outcome <;> simp [Except.map]

/-- The value of a field, by its key. -/
def value? (s : Settings) (key : String) : Option Json :=
  s.toJson.entry? key

theorem value?_eq (s : Settings) (key : String) :
    s.value? key = if key = "configFileNames" then some (.ofTexts s.configFileNames)
      else if key = "fileTypes" then some (.ofTexts s.fileTypes)
      else if key = "flushDebounceMs" then some (.ofNat s.flushDebounceMs.toNat)
      else if key = "logLevel" then some (.string s.logLevel)
      else if key = "metaRoots" then some (.ofTexts s.metaRoots)
      else if key = "schemaCacheCapacity" then some (.ofNat s.schemaCacheCapacity.toNat)
      else if key = "scopeCacheCapacity" then some (.ofNat s.scopeCacheCapacity.toNat)
      else none := by
  simp only [value?, toJson, Json.entry?_object, Keyed.at?_cons, Json.ofTexts]
  rfl

/-- An entry is read into the field of its key, and leaves the others as they are. -/
theorem value?_decodeEntry {s t : Settings} {key : String} {value : Json} (hkey : key ∈ keys)
    (h : decodeEntry s (key, value) = .ok t) (other : String) :
    t.value? other = if other = key then some value else s.value? other := by
  simp only [keys, List.mem_cons, List.not_mem_nil, or_false] at hkey
  by_cases hother : other = key
  all_goals
    rcases hkey with rfl | rfl | rfl | rfl | rfl | rfl | rfl
  all_goals
    simp only [decodeEntry, map_eq_ok_iff, decodeTexts_eq_ok_iff, decodeCount_eq_ok_iff,
      decodeText_eq_ok_iff] at h
    obtain ⟨field, rfl, rfl⟩ := h
  all_goals simp [value?_eq, hother]

/-- The entries of known keys, none of which occurs twice, are read into their fields; the others
stay as they are. -/
theorem value?_decodeEntries {entries : List (String × Json)}
    (hdistinct : (entries.map (·.1)).Nodup) (hkeys : ∀ entry ∈ entries, entry.1 ∈ keys)
    {s t : Settings} (h : decodeEntries s entries = .ok t) (key : String) :
    t.value? key = (Keyed.at? key entries).or (s.value? key) := by
  induction entries generalizing s with
  | nil =>
    cases h
    rfl
  | cons entry entries ih =>
    obtain ⟨first, value⟩ := entry
    obtain ⟨hfirst, hrest⟩ := List.nodup_cons.mp hdistinct
    obtain ⟨hknown, hothers⟩ := List.forall_mem_cons.mp hkeys
    rw [decodeEntries] at h
    split at h
    · cases h
    · rename_i between hentry
      rw [ih hrest hothers h, value?_decodeEntry hknown hentry, Keyed.at?_cons]
      split
      case isTrue heq =>
        subst heq
        rw [Keyed.at?_eq_none_iff.mpr hfirst, Option.none_or, Option.some_or]
      case isFalse hne => rfl

/-- Entries are read if each of them is, whatever the fields held before. -/
theorem exists_decodeEntry_iff {s : Settings} {entry : String × Json} :
    (∃ t, decodeEntry s entry = .ok t) ↔
      ∀ rule, Rules.rule? entry.1 = some rule → rule.Reads entry.2 := by
  obtain ⟨key, value⟩ := entry
  by_cases hkey : key ∈ keys
  · simp only [keys, List.mem_cons, List.not_mem_nil, or_false] at hkey
    rcases hkey with rfl | rfl | rfl | rfl | rfl | rfl | rfl
    all_goals
      simp [decodeEntry, map_eq_ok_iff, decodeTexts_eq_ok_iff, decodeCount_eq_ok_iff,
        decodeText_eq_ok_iff, Rules.rule?, Rules.fields, Rules.Rule.Reads]
  · have hnone : Rules.rule? key = none := Keyed.at?_eq_none_iff.mpr hkey
    simp only [hnone, reduceCtorEq, false_implies, implies_true, iff_true]
    unfold decodeEntry
    split
    case h_8 => exact ⟨s, rfl⟩
    all_goals
      rename_i heq
      exact absurd (by simp [show key = _ from heq, keys]) hkey

theorem exists_decodeEntries_iff {s : Settings} {entries : List (String × Json)} :
    (∃ t, decodeEntries s entries = .ok t) ↔
      ∀ entry ∈ entries, ∀ rule, Rules.rule? entry.1 = some rule → rule.Reads entry.2 := by
  induction entries generalizing s with
  | nil => simp [decodeEntries]
  | cons entry entries ih =>
    rw [List.forall_mem_cons, ← exists_decodeEntry_iff (s := s), decodeEntries]
    split
    · rename_i hentry
      simp [hentry]
    · rename_i t hentry
      rw [ih]
      simp [hentry]

/-- The keys of the fields that hold counts. -/
def countKeys : List String :=
  ["flushDebounceMs", "schemaCacheCapacity", "scopeCacheCapacity"]

theorem count_of_rule? {key : String} {least : Int}
    (h : Rules.rule? key = some (.count least)) : key ∈ countKeys ∧ 0 ≤ least := by
  have hfield := Rules.rule?_eq_some_iff.mp h
  simp only [Rules.fields, List.mem_cons, Prod.mk.injEq, Rules.Rule.count.injEq, reduceCtorEq,
    and_false, List.not_mem_nil, or_false, false_or] at hfield
  rcases hfield with ⟨rfl, rfl⟩ | ⟨rfl, rfl⟩ | ⟨rfl, rfl⟩ <;> simp [countKeys]

/-- A whole number in the form of an integer is a count: a text holds none that is too great. -/
theorem isCount_iff {least : Nat} {value : Json} (h : value.WellFormed) :
    IsCount least value ↔ IsWhole least value ∧ ∀ x, value ≠ .number (.real x) := by
  constructor
  · rintro ⟨n, rfl, hleast, hbound⟩
    refine ⟨⟨.integer n, rfl, rfl, fun hlt => ?_⟩, fun x heq => by cases heq⟩
    have := Int.compare_eq_lt.mp hlt
    omega
  · rintro ⟨⟨x, rfl, -, hleast⟩, hreal⟩
    cases h with
    | number _ hfits =>
      cases x with
      | real x => exact absurd rfl (hreal x)
      | integer n =>
        have hle : (least : Int) ≤ n := Int.not_lt.mp fun hlt => hleast (Int.compare_eq_lt.mpr hlt)
        obtain ⟨m, rfl⟩ := Int.eq_ofNat_of_zero_le (Int.le_trans (Int.natCast_nonneg _) hle)
        refine ⟨m, rfl, by omega, ?_⟩
        have := hfits.2
        omega

/-- A value that keeps the rule of a key is read, unless it is a count in floating-point form. -/
theorem reads_iff {key : String} {rule : Rules.Rule} {value : Json}
    (hrule : Rules.rule? key = some rule) (hkeeps : rule.Keeps value) (h : value.WellFormed) :
    rule.Reads value ↔ (key ∈ countKeys → ∀ x, value ≠ .number (.real x)) := by
  cases rule with
  | texts =>
    obtain ⟨texts, rfl, -⟩ := hkeeps
    exact iff_of_true ⟨texts, rfl⟩ fun _ _ heq => by cases heq
  | choice =>
    obtain ⟨text, -, rfl⟩ := hkeeps
    exact iff_of_true ⟨text, rfl⟩ fun _ _ heq => by cases heq
  | count least =>
    obtain ⟨hkey, hleast⟩ := count_of_rule? hrule
    obtain ⟨m, rfl⟩ := Int.eq_ofNat_of_zero_le hleast
    constructor
    · rintro ⟨n, rfl⟩ _ x heq
      cases heq
    · intro hreal
      obtain ⟨n, rfl, -, hbound⟩ := (isCount_iff h).mpr ⟨hkeeps, hreal hkey⟩
      exact ⟨UInt64.ofNat n, by rw [UInt64.toNat_ofNat_of_lt' hbound]⟩

/-! ### Acceptance -/

/-- One of the counts is in floating-point form. -/
def HoldsReal (document : Json) : Prop :=
  ∃ key ∈ countKeys, ∃ x : Binary64,
    x.isIntegral = true ∧ document.entry? key = some (.number (.real x))

/-- Whatever may stand for a count makes no difference to the other fields. -/
theorem Described.imp {count count' : Nat → Json → Prop} {document : Json}
    (h : Described count document)
    (himp : ∀ key ∈ countKeys, ∀ least, ∀ value ∈ document.entry? key,
      count least value → count' least value) : Described count' document where
  keys := h.keys
  configFileNames := h.configFileNames
  fileTypes := h.fileTypes
  flushDebounceMs value hvalue :=
    himp _ (by simp [countKeys]) 0 value hvalue (h.flushDebounceMs value hvalue)
  schemaCacheCapacity value hvalue :=
    himp _ (by simp [countKeys]) 1 value hvalue (h.schemaCacheCapacity value hvalue)
  scopeCacheCapacity value hvalue :=
    himp _ (by simp [countKeys]) 1 value hvalue (h.scopeCacheCapacity value hvalue)
  logLevel := h.logLevel
  metaRoots := h.metaRoots

/-- Counts that are whole numbers are counts, unless one is in floating-point form. -/
theorem described_isCount_iff {document : Json} (h : document.WellFormed) :
    Described IsCount document ↔ Described IsWhole document ∧ ¬ HoldsReal document := by
  constructor
  · intro hdescribed
    refine ⟨hdescribed.imp fun key _ least value hvalue hcount => ?_, ?_⟩
    · exact ((isCount_iff (h.of_entry? hvalue)).mp hcount).1
    · rintro ⟨key, hkey, x, -, hvalue⟩
      have hreal : ∀ least, ¬ IsCount least (.number (.real x)) := by
        rintro least ⟨n, heq, -⟩
        cases heq
      simp only [countKeys, List.mem_cons, List.not_mem_nil, or_false] at hkey
      rcases hkey with rfl | rfl | rfl
      · exact hreal 0 (hdescribed.flushDebounceMs _ hvalue)
      · exact hreal 1 (hdescribed.schemaCacheCapacity _ hvalue)
      · exact hreal 1 (hdescribed.scopeCacheCapacity _ hvalue)
  · rintro ⟨hdescribed, hreal⟩
    refine hdescribed.imp fun key hkey least value hvalue hwhole => ?_
    refine (isCount_iff (h.of_entry? hvalue)).mpr ⟨hwhole, ?_⟩
    rintro x rfl
    obtain ⟨_, heq, hintegral, -⟩ := hwhole
    cases heq
    exact hreal ⟨key, hkey, x, hintegral, hvalue⟩

theorem isIntegral_of_keeps {rule : Rules.Rule} {x : Json.Number} (h : rule.Keeps (.number x)) :
    x.isIntegral = true := by
  cases rule with
  | texts =>
    obtain ⟨_, heq, -⟩ := h
    cases heq
  | choice =>
    obtain ⟨_, -, heq⟩ := h
    cases heq
  | count =>
    obtain ⟨_, heq, hintegral, -⟩ := h
    cases heq
    exact hintegral

/-- What the check lets pass is read, unless a count is in floating-point form. -/
theorem exists_decode_iff {document : Json} (h : document.WellFormed)
    (hcheck : Rules.check document = none) :
    (∃ s, decode document = .ok s) ↔ ¬ HoldsReal document := by
  obtain ⟨entries, rfl, hrules⟩ := Rules.check_eq_none_iff.mp hcheck
  cases h with
  | object _ hincreasing hvalues =>
    have hentry : ∀ {key value}, Json.entry? key (.object entries) = some value ↔
        (key, value) ∈ entries := Keyed.at?_eq_some_iff (Json.nodup_keys hincreasing)
    rw [decode, exists_decodeEntries_iff]
    constructor
    · rintro hreads ⟨key, hkey, x, -, hvalue⟩
      have hmem := hentry.mp hvalue
      obtain ⟨rule, hrule, hkeeps⟩ := hrules _ hmem
      exact (reads_iff hrule hkeeps (hvalues _ hmem)).mp (hreads _ hmem rule hrule) hkey x rfl
    · intro hreal entry hmem rule hrule
      obtain ⟨rule', hrule', hkeeps⟩ := hrules _ hmem
      obtain rfl := Option.some.inj (hrule.symm.trans hrule')
      refine (reads_iff hrule hkeeps (hvalues _ hmem)).mpr fun hkey x heq => ?_
      have hintegral := isIntegral_of_keeps (x := .real x) (heq ▸ hkeeps)
      exact hreal ⟨entry.1, hkey, x, hintegral, hentry.mpr (heq ▸ hmem)⟩

/-- A field is taken as it stands, or has its default. -/
def Taken {α : Type} (write : α → Json) (default field : α) : Option Json → Prop
  | some value => value = write field
  | none => field = default

/-- Every field is taken as it stands in a document, or has its default. -/
structure TakenFrom (document : Json) (s : Settings) : Prop where
  configFileNames : Taken .ofTexts defaultConfigFileNames s.configFileNames
    (document.entry? "configFileNames")
  fileTypes : Taken .ofTexts defaultFileTypes s.fileTypes (document.entry? "fileTypes")
  flushDebounceMs : Taken (fun n => .ofNat n.toNat) 3000 s.flushDebounceMs
    (document.entry? "flushDebounceMs")
  schemaCacheCapacity : Taken (fun n => .ofNat n.toNat) 256 s.schemaCacheCapacity
    (document.entry? "schemaCacheCapacity")
  scopeCacheCapacity : Taken (fun n => .ofNat n.toNat) 10000 s.scopeCacheCapacity
    (document.entry? "scopeCacheCapacity")
  logLevel : Taken .string "info" s.logLevel (document.entry? "logLevel")
  metaRoots : Taken .ofTexts [] s.metaRoots (document.entry? "metaRoots")

theorem ofTexts_inj {texts texts' : List String} (h : Json.ofTexts texts = .ofTexts texts') :
    texts = texts' :=
  List.map_injective_iff.mpr (fun _ _ => Json.string.inj) (Json.array.inj h)

theorem ofNat_toNat_inj {n n' : UInt64} (h : Json.ofNat n.toNat = .ofNat n'.toNat) : n = n' := by
  simp only [Json.ofNat, Json.number.injEq, Json.Number.integer.injEq] at h
  exact UInt64.toNat_inj.mp (Int.ofNat_inj.mp h)

/-- What the entries of a document are read into. -/
theorem takenFrom_of_decodeEntries {entries : List (String × Json)}
    (hdistinct : (entries.map (·.1)).Nodup) (hkeys : ∀ entry ∈ entries, entry.1 ∈ keys)
    {s : Settings} (h : decodeEntries {} entries = .ok s) : TakenFrom (.object entries) s := by
  have hfield : ∀ {α : Type} {write : α → Json} {key : String} {field default : α},
      (∀ {x y}, write x = write y → x = y) → s.value? key = some (write field) →
        value? {} key = some (write default) →
          Taken write default field (Json.entry? key (.object entries)) := by
    intro α write key field default hinj hheld hdefault
    have hvalue := value?_decodeEntries hdistinct hkeys h key
    rw [hheld, hdefault] at hvalue
    rw [Json.entry?_object]
    cases hentry : Keyed.at? key entries with
    | none => exact hinj (Option.some.inj (by rwa [hentry] at hvalue))
    | some value => exact (Option.some.inj (by rwa [hentry] at hvalue)).symm
  exact
    { configFileNames := hfield ofTexts_inj rfl rfl
      fileTypes := hfield ofTexts_inj rfl rfl
      flushDebounceMs := hfield ofNat_toNat_inj rfl rfl
      schemaCacheCapacity := hfield ofNat_toNat_inj rfl rfl
      scopeCacheCapacity := hfield ofNat_toNat_inj rfl rfl
      logLevel := hfield Json.string.inj rfl rfl
      metaRoots := hfield ofTexts_inj rfl rfl }

/-- The three ways in which a value is dealt with. -/
theorem ofJson_cases {document : Json} (h : document.WellFormed) :
    (∃ v, Rules.check document = some v ∧ ofJson document = .error (.violation v) ∧
        ¬ Described IsWhole document) ∨
      (∃ m, ofJson document = .error (.mismatch m) ∧ Described IsWhole document ∧
        HoldsReal document) ∨
      ∃ s, ofJson document = .ok s ∧ Described IsCount document ∧ TakenFrom document s := by
  have hpasses := check_eq_none_iff_described h
  unfold ofJson
  cases hcheck : Rules.check document with
  | some v =>
    refine .inl ⟨v, rfl, rfl, fun hdescribed => ?_⟩
    rw [hpasses.mpr hdescribed] at hcheck
    cases hcheck
  | none =>
    have hdescribed := hpasses.mp hcheck
    have hreads := exists_decode_iff h hcheck
    cases hdecode : decode document with
    | error m =>
      refine .inr (.inl ⟨m, rfl, hdescribed, ?_⟩)
      by_contra hreal
      obtain ⟨s, hs⟩ := hreads.mpr hreal
      rw [hs] at hdecode
      cases hdecode
    | ok s =>
      have hreal := hreads.mp ⟨s, hdecode⟩
      refine .inr (.inr ⟨s, rfl, (described_isCount_iff h).mpr ⟨hdescribed, hreal⟩, ?_⟩)
      obtain ⟨entries, rfl, hkeys⟩ := hdescribed.keys
      cases h with
      | object _ hincreasing _ =>
        exact takenFrom_of_decodeEntries (Json.nodup_keys hincreasing) hkeys hdecode

/-- What becomes of a text is what becomes of the value it is read as. -/
theorem ofText_of_read {text : String} {document : Json} (hread : Json.read text = .ok document) :
    ofText text = (ofJson document).mapError .config := by
  rw [ofText, hread]

/-- Settings that a text gives are those of the value it is read as. -/
theorem read_of_ofText {text : String} {s : Settings} (h : ofText text = .ok s) :
    ∃ document, Json.read text = .ok document ∧ ofJson document = .ok s := by
  cases hread : Json.read text with
  | error fault =>
    rw [ofText, hread] at h
    cases h
  | ok document =>
    rw [ofText_of_read hread] at h
    cases hsettings : ofJson document with
    | error problem =>
      rw [hsettings] at h
      cases h
    | ok t =>
      rw [hsettings] at h
      cases h
      exact ⟨document, rfl, hsettings⟩

end Settings

open Settings in
/-- The language of settings. A text that is JSON is accepted if and only if its value is an object
of known keys whose names, types and roots are lists of texts of the right form, whose level is one
of the five, and whose counts are integers in the range of their fields. Then every field is taken
as it stands, or has its default. What is refused otherwise breaks the rules of the document, or
keeps them with a count in floating-point form. -/
theorem settings_language {text : String} {document : Json}
    (hread : Json.read text = .ok document) :
    ((∃ s, ofText text = .ok s) ↔ Described IsCount document) ∧
      (∀ s, ofText text = .ok s → TakenFrom document s) ∧
      ((∃ m, ofText text = .error (.config (.mismatch m))) ↔
        Described IsWhole document ∧ HoldsReal document) ∧
      ∀ e, ofText text = .error e → (∃ m, e = .config (.mismatch m)) ∨
        ∃ v, Rules.check document = some v ∧ e = .config (.violation v) := by
  have hwell := Json.wellFormed_of_read hread
  have hcount := described_isCount_iff hwell
  rw [ofText_of_read hread]
  rcases ofJson_cases hwell with ⟨v, hcheck, heq, hbroken⟩ | ⟨m, heq, hwhole, hreal⟩ |
    ⟨s, heq, hdescribed, htaken⟩
  all_goals
    rw [heq, Except.mapError]
  case inl =>
    refine ⟨iff_of_false nofun ?_, nofun, iff_of_false nofun ?_, fun e h => ?_⟩
    · exact fun h => hbroken (hcount.mp h).1
    · exact fun h => hbroken h.1
    · cases h
      exact .inr ⟨v, hcheck, rfl⟩
  case inr.inl =>
    refine ⟨iff_of_false nofun ?_, nofun, iff_of_true ⟨m, rfl⟩ ⟨hwhole, hreal⟩, fun e h => ?_⟩
    · exact fun h => (hcount.mp h).2 hreal
    · cases h
      exact .inl ⟨m, rfl⟩
  case inr.inr =>
    refine ⟨iff_of_true ⟨s, rfl⟩ hdescribed, fun s' h => ?_, iff_of_false nofun ?_, nofun⟩
    · cases h
      exact htaken
    · exact fun h => (hcount.mp hdescribed).2 h.2

section Example

open Settings

/-- A delay of 2⁶⁴ - 1, after another one that does not count. -/
def greatestDelay : String :=
  "\x7b\"flushDebounceMs\":0,\"flushDebounceMs\":18446744073709551615\x7d"

/-- A capacity in floating-point form. -/
def realCapacity : String :=
  "\x7b\"schemaCacheCapacity\":1.0\x7d"

/-- A delay at the end of its range is taken; a whole number in floating-point form is refused after
the rules are checked. -/
theorem settings_language_counts :
    TakenFrom (.object [("flushDebounceMs", .ofNat (2 ^ 64 - 1))])
        { flushDebounceMs := 18446744073709551615 } ∧
      HoldsReal (.object [("schemaCacheCapacity", .number (.real ⟨false, 2 ^ 52, -52⟩))]) := by
  have hdelay := @settings_language greatestDelay
    (.object [("flushDebounceMs", .ofNat (2 ^ 64 - 1))]) rfl
  have hcapacity := @settings_language realCapacity
    (.object [("schemaCacheCapacity", .number (.real ⟨false, 2 ^ 52, -52⟩))]) rfl
  exact ⟨hdelay.2.1 _ rfl, (hcapacity.2.2.1.mp ⟨_, rfl⟩).2⟩

end Example

end SchemaEngine
