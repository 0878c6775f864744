-- SUMMARY: Which value each field of the settings takes, and when settings are refused.
import LintBridge.Proofs.Settings.Field
import LintBridge.Proofs.Settings.Key
import LintBridge.Settings.Basic
import Mathlib.Data.List.Basic

/-!
# Precedence of settings

For each field one given value wins: that of the last option whose key stands for the field, or else that of the
environment variable of the field. The settings hold what the winning values are read as, and are refused exactly
when one of these cannot be read. All other values count for nothing. What is read can be given again: a field holds
what some value for it is read as, and settings are those that can be loaded exactly when all their fields hold such.
-/

namespace LintBridge.Settings

open Json

/-! ## Fields -/

inductive Field where
  | nodePath
  | packageName
  | configFilename
  | maxAscent
  | lintTimeout
  | trace
  | source
  deriving DecidableEq, Repr

namespace Field

/-- The fields, in the order in which they are read. -/
def all : List Field := [nodePath, packageName, configFilename, maxAscent, lintTimeout, trace, source]

theorem mem_all (f : Field) : f ∈ all := by cases f <;> decide

/-- What a field holds. -/
@[reducible] def Content : Field → Type
  | nodePath | packageName | configFilename | source => String
  | maxAscent => Nat
  | lintTimeout => Option Binary64
  | trace => Bool

/-- The name of a field in options and reports. -/
def name : Field → String
  | nodePath => "node_path"
  | packageName => "package_name"
  | configFilename => "config_filename"
  | maxAscent => "max_ascent"
  | lintTimeout => "lint_timeout"
  | trace => "trace"
  | source => "source"

/-- The words of the name of a field. -/
def words : Field → List (List Char)
  | nodePath => ["node".toList, "path".toList]
  | packageName => ["package".toList, "name".toList]
  | configFilename => ["config".toList, "filename".toList]
  | maxAscent => ["max".toList, "ascent".toList]
  | lintTimeout => ["lint".toList, "timeout".toList]
  | trace => ["trace".toList]
  | source => ["source".toList]

theorem isWord_of_mem_words (f : Field) : ∀ word ∈ f.words, IsWord word := by cases f <;> decide

theorem name_eq (f : Field) : f.name = String.ofList (snakeName f.words) := by cases f <;> decide

/-- The environment variable that sets a field. -/
def override? : Field → Option String
  | nodePath => some "TSLINTER_NODE"
  | packageName => some "TSLINTER_PACKAGE"
  | configFilename => some "TSLINTER_CONFIG_FILE"
  | lintTimeout => some "TSLINTER_LINT_TIMEOUT"
  | maxAscent | trace | source => none

def content (s : Settings) : (f : Field) → f.Content
  | nodePath => s.nodePath
  | packageName => s.packageName
  | configFilename => s.configFilename
  | maxAscent => s.maxAscent
  | lintTimeout => s.lintTimeout
  | trace => s.trace
  | source => s.source

/-- What a value given for a field is read as. -/
def read : (f : Field) → Value → Except Problem f.Content
  | nodePath | packageName | configFilename | source => readText
  | maxAscent => readPositive
  | lintTimeout => readTimeout
  | trace => readTruth

/-- What a field takes: what the value given for it is read as, or else its default. -/
def taken (f : Field) : Option Value → Except Problem f.Content
  | some v => f.read v
  | none => .ok (f.content {})

end Field

/-- Settings are what their fields hold. -/
theorem eq_of_content_eq {s s' : Settings} (h : ∀ f : Field, f.content s = f.content s') : s = s' := by
  obtain ⟨nodePath, packageName, configFilename, maxAscent, lintTimeout, trace, source⟩ := s
  cases h .nodePath
  cases h .packageName
  cases h .configFilename
  cases h .maxAscent
  cases h .lintTimeout
  cases h .trace
  cases h .source
  rfl

/-! ## The winning value -/

/-- The value that wins for a field: that of the last option whose key stands for the field; without such an
option, that of its environment variable, unless it is empty; and otherwise none. -/
inductive Wins (options : Members) (env : Environment) (f : Field) : Option Value → Prop
  | option {before after : Members} {key : Text.Codes} {v : Value} : options = before ++ (key, v) :: after →
      fieldName key = f.name → (∀ o ∈ after, fieldName o.1 ≠ f.name) → Wins options env f (some v)
  | environment {name value : String} : (∀ o ∈ options, fieldName o.1 ≠ f.name) → f.override? = some name →
      Table.find? env name = some value → value ≠ "" → Wins options env f (some (.text value))
  | absent : (∀ o ∈ options, fieldName o.1 ≠ f.name) →
      (∀ name value, f.override? = some name → Table.find? env name = some value → value = "") →
      Wins options env f none

section

variable {options : Members} {env : Environment} {f : Field}

/-- Options with the field names that their keys stand for. -/
def named (options : Members) : List (String × Value) := options.map fun (key, v) => (fieldName key, v)

theorem given_eq (options : Members) (env : Environment) :
    given options env =
      (named options).foldl (fun fields (key, v) => Table.put key v fields) (fromEnvironment env) := by
  rw [named, List.foldl_map]
  rfl

theorem not_mem_named_iff {field : String} :
    field ∉ (named options).map Prod.fst ↔ ∀ o ∈ options, fieldName o.1 ≠ field := by
  simp [named]

theorem mem_overrides_iff {name : String} : (name, f.name) ∈ overrides ↔ f.override? = some name := by
  cases f <;> simp [overrides, Field.name, Field.override?, eq_comm]

/-- The field that an environment variable sets, with the value that it sets it to. -/
def setting? (env : Environment) (override : String × String) : Option (String × Value) :=
  match Table.find? env override.1 with
  | some value => if value.isEmpty then none else some (override.2, .text value)
  | none => none

theorem setting?_eq_some_iff {override : String × String} {member : String × Value} :
    setting? env override = some member ↔
      ∃ value, Table.find? env override.1 = some value ∧ value ≠ "" ∧ (override.2, .text value) = member := by
  unfold setting?
  cases Table.find? env override.1 with
  | none => simp
  | some value => simp

/-- The environment gives a field the value of its variable, as a text. -/
theorem fromEnvironment_eq_some_iff {v : Value} :
    Table.find? (fromEnvironment env) f.name = some v ↔
      ∃ name value, f.override? = some name ∧ Table.find? env name = some value ∧ value ≠ "" ∧
        .text value = v := by
  have hdistinct : ((overrides.filterMap (setting? env)).map Prod.fst).Nodup := by
    have hfields : overrides.Pairwise fun o o' => o.2 ≠ o'.2 := by decide
    rw [List.Nodup, List.pairwise_map]
    refine hfields.filterMap _ fun o o' hne member hmember member' hmember' => ?_
    obtain ⟨value, -, -, rfl⟩ := setting?_eq_some_iff.1 hmember
    obtain ⟨value', -, -, rfl⟩ := setting?_eq_some_iff.1 hmember'
    exact hne
  change Table.find? (Table.ofPairs (overrides.filterMap (setting? env))) f.name = some v ↔ _
  rw [Table.find?_ofPairs_eq_some_iff hdistinct, List.mem_filterMap]
  constructor
  · rintro ⟨⟨name, field⟩, hmem, hsetting⟩
    obtain ⟨value, hfound, hne, hmember⟩ := setting?_eq_some_iff.1 hsetting
    cases hmember
    exact ⟨name, value, mem_overrides_iff.1 hmem, hfound, hne, rfl⟩
  · rintro ⟨name, value, hname, hfound, hne, rfl⟩
    exact ⟨(name, f.name), mem_overrides_iff.2 hname, setting?_eq_some_iff.2 ⟨value, hfound, hne, rfl⟩⟩

theorem member?_given_of_not_stands (h : ∀ o ∈ options, fieldName o.1 ≠ f.name) :
    Table.find? (given options env) f.name = Table.find? (fromEnvironment env) f.name := by
  rw [given_eq]
  exact Table.find?_foldl_put_of_not_mem _ (not_mem_named_iff.2 h)

/-- What wins for a field is what is given for it. -/
theorem Wins.member? {v : Option Value} (h : Wins options env f v) : Table.find? (given options env) f.name = v := by
  cases h with
  | @option before after key v hsplit hkey hafter =>
    rw [given_eq, hsplit, named, List.map_append, List.map_cons, ← hkey]
    exact Table.find?_foldl_put_of_last _ (not_mem_named_iff.2 (hkey ▸ hafter))
  | environment hnone hname hfound hne =>
    rw [member?_given_of_not_stands hnone]
    exact fromEnvironment_eq_some_iff.2 ⟨_, _, hname, hfound, hne, rfl⟩
  | absent hnone hunset =>
    rw [member?_given_of_not_stands hnone, Option.eq_none_iff_forall_ne_some]
    intro v hv
    obtain ⟨name, value, hname, hfound, hne, -⟩ := fromEnvironment_eq_some_iff.1 hv
    exact hne (hunset name value hname hfound)

theorem exists_wins (options : Members) (env : Environment) (f : Field) : ∃ v, Wins options env f v := by
  by_cases hstands : ∃ o ∈ options, fieldName o.1 = f.name
  · -- Some option stands for the field, so there is a last one that does.
    have hmem : f.name ∈ (named options).map Prod.fst := by
      by_contra hnot
      obtain ⟨o, ho, hname⟩ := hstands
      exact not_mem_named_iff.1 hnot o ho hname
    obtain ⟨before, v, after, hsplit, hafter⟩ := Table.exists_last hmem
    obtain ⟨before, rest, rfl, rfl, hrest⟩ := List.map_eq_append_iff.1 hsplit
    obtain ⟨⟨key, w⟩, after, rfl, hentry, rfl⟩ := List.map_eq_cons_iff.1 hrest
    exact ⟨_, .option rfl (congrArg Prod.fst hentry) (not_mem_named_iff.1 hafter)⟩
  · push Not at hstands
    cases hset : Table.find? (fromEnvironment env) f.name with
    | some v =>
      obtain ⟨name, value, hname, hfound, hne, -⟩ := fromEnvironment_eq_some_iff.1 hset
      exact ⟨_, .environment hstands hname hfound hne⟩
    | none =>
      refine ⟨_, .absent hstands fun name value hname hfound => ?_⟩
      by_contra hne
      have hsome := fromEnvironment_eq_some_iff.2 ⟨name, value, hname, hfound, hne, rfl⟩
      rw [hset] at hsome
      cases hsome

/-- Exactly one value, or none, wins for a field. -/
theorem wins_iff {v : Option Value} : Wins options env f v ↔ Table.find? (given options env) f.name = v := by
  refine ⟨Wins.member?, ?_⟩
  rintro rfl
  obtain ⟨v, hwins⟩ := exists_wins options env f
  rwa [← hwins.member?] at hwins

end

/-! ## Reading the fields -/

section

variable {fields : List (String × Value)} {f : Field}

theorem readField_eq_ok_iff {content : f.Content} :
    readField fields f.name f.read (f.content {}) = .ok content ↔
      f.taken (Table.find? fields f.name) = .ok content := by
  unfold readField
  cases Table.find? fields f.name with
  | none => simp [Field.taken]
  | some v => cases hread : f.read v <;> simp [Field.taken, Except.mapError, hread]

/-- Either all fields are read, or their violations are reported in the order of the fields. -/
theorem ofGiven_cases (fields : List (String × Value)) :
    (∃ s, ofGiven fields = .ok s ∧ ∀ f : Field, f.taken (Table.find? fields f.name) = .ok (f.content s)) ∨
      (¬∀ f : Field, ∃ content, f.taken (Table.find? fields f.name) = .ok content) ∧
        ofGiven fields = .error ⟨"ServerSettings",
          Field.all.filterMap fun f => violation? (readField fields f.name f.read (f.content {}))⟩ := by
  simp only [← readField_eq_ok_iff]
  cases hload : ofGiven fields with
  | ok s =>
    refine .inl ⟨s, rfl, ?_⟩
    unfold ofGiven at hload
    dsimp only at hload
    split at hload
    next =>
      cases hload
      intro f
      cases f <;> assumption
    next => cases hload
  | error e =>
    unfold ofGiven at hload
    dsimp only at hload
    split at hload
    next => cases hload
    next hnot =>
      cases hload
      refine .inr ⟨fun hall => ?_, rfl⟩
      obtain ⟨_, hnode⟩ := hall .nodePath
      obtain ⟨_, hpackage⟩ := hall .packageName
      obtain ⟨_, hconfig⟩ := hall .configFilename
      obtain ⟨_, hascent⟩ := hall .maxAscent
      obtain ⟨_, htimeout⟩ := hall .lintTimeout
      obtain ⟨_, htrace⟩ := hall .trace
      obtain ⟨_, hsource⟩ := hall .source
      exact hnot _ _ _ _ _ _ _ hnode hpackage hconfig hascent htimeout htrace hsource

end

/-! ## Loading -/

section

variable {options options' : Members} {env : Environment} {s : Settings}

theorem load_eq_ok_iff :
    load options env = .ok s ↔ ∀ f given, Wins options env f given → f.taken given = .ok (f.content s) := by
  simp only [wins_iff, forall_eq']
  rcases ofGiven_cases (given options env) with ⟨s', hload, htaken⟩ | ⟨hnot, hload⟩
  · rw [load, hload]
    constructor
    · rintro ⟨⟩
      exact htaken
    · intro h
      rw [eq_of_content_eq fun f => Except.ok.inj ((htaken f).symm.trans (h f))]
  · rw [load, hload]
    constructor
    · rintro ⟨⟩
    · intro h
      exact absurd (fun f => ⟨_, h f⟩) hnot

/-- Options in another order have the same winners, if their keys stand for different names. -/
theorem Wins.perm {f : Field} {v : Option Value} (h : Wins options env f v) (hperm : options'.Perm options)
    (hdistinct : (options.map fun o => fieldName o.1).Nodup) : Wins options' env f v := by
  cases h with
  | @option before after key v hsplit hkey hafter =>
    have hmem : (key, v) ∈ options' := hperm.mem_iff.2 (by simp [hsplit])
    obtain ⟨before', after', rfl⟩ := List.append_of_mem hmem
    refine .option rfl hkey fun o ho hname => ?_
    rw [← (hperm.map _).nodup_iff, List.map_append, List.map_cons, List.nodup_append,
      List.nodup_cons] at hdistinct
    exact hdistinct.2.1.1 (List.mem_map.2 ⟨o, ho, hname.trans hkey.symm⟩)
  | environment hnone hname hfound hne =>
    exact .environment (fun o ho => hnone o (hperm.mem_iff.1 ho)) hname hfound hne
  | absent hnone hunset => exact .absent (fun o ho => hnone o (hperm.mem_iff.1 ho)) hunset

end

/-- The last of two spellings wins, over the environment too; a value that is overridden need not be valid, and an
empty variable counts for nothing. -/
example :
    (load [("nodePath", .text "a"), ("maxAscent", .int 0), ("node_path", .text "b"), ("max_ascent", .int 3),
      ("unknownOption", .null)] [("TSLINTER_NODE", "c"), ("TSLINTER_PACKAGE", "")]).toOption =
      some { nodePath := "b", maxAscent := 3 } := by
  decide +kernel

/-! ## What fields hold -/

namespace Field

variable {f : Field} {content : f.Content}

/-- What a field can hold: an ascent is at least one step, and a limit of time is positive. -/
def Valid : (f : Field) → f.Content → Prop
  | maxAscent, ascent => 1 ≤ ascent
  | lintTimeout, timeout => ∀ seconds, timeout = some seconds → seconds.isPositive
  | nodePath, _ | packageName, _ | configFilename, _ | trace, _ | source, _ => True

/-- A value that stands for what a field holds. -/
def value : (f : Field) → f.Content → Value
  | nodePath, s | packageName, s | configFilename, s | source, s => .text (.ofString s)
  | maxAscent, ascent => .int ascent
  | lintTimeout, some seconds => .float seconds
  | lintTimeout, none => .null
  | trace, b => .bool b

theorem valid_default (f : Field) : f.Valid (f.content {}) := by
  cases f with
  | maxAscent =>
    change (1 : Nat) ≤ 256
    decide
  | lintTimeout => exact fun seconds h => nomatch h
  | _ => trivial

theorem valid_of_read {v : Value} (h : f.read v = .ok content) : f.Valid content := by
  cases f with
  | maxAscent => exact (readPositive_eq_ok_iff.1 h).2
  | lintTimeout =>
    rcases readTimeout_eq_ok_iff.1 h with ⟨-, rfl⟩ | ⟨seconds, rfl, -, hpositive⟩
    · exact fun seconds h => nomatch h
    · rintro _ ⟨⟩
      exact hpositive
  | _ => trivial

theorem valid_of_taken {given : Option Value} (h : f.taken given = .ok content) : f.Valid content := by
  cases given with
  | none =>
    cases h
    exact f.valid_default
  | some v => exact valid_of_read h

theorem read_value (h : f.Valid content) : f.read (f.value content) = .ok content := by
  have htext (s : String) : readText (.text (.ofString s)) = .ok s :=
    readText_eq_ok_iff.2 ⟨_, rfl, Text.Codes.shown_ofString s⟩
  cases f with
  | nodePath | packageName | configFilename | source => exact htext content
  | maxAscent => exact readPositive_eq_ok_iff.2 ⟨.int _, h⟩
  | lintTimeout =>
    cases content with
    | none => exact readTimeout_eq_ok_iff.2 (.inl ⟨rfl, rfl⟩)
    | some seconds => exact readTimeout_eq_ok_iff.2 (.inr ⟨seconds, rfl, .float seconds, h seconds rfl⟩)
  | trace => exact readTruth_eq_ok_iff.2 (.bool content)

theorem name_injective : Function.Injective name := by
  intro f f' h
  cases f <;> cases f' <;> first | rfl | exact absurd h (by decide)

/-- The name of a field is a key that stands for it. -/
theorem fieldName_name (f : Field) : fieldName f.name = f.name := by
  rw [f.name_eq]
  exact (fieldName_of_words f.isWord_of_mem_words).2

end Field

/-- Options that give each field what settings hold. -/
def optionsOf (s : Settings) : Members := Field.all.map fun f => (Text.Codes.ofString f.name, f.value (f.content s))

theorem wins_optionsOf (s : Settings) (env : Environment) (f : Field) :
    Wins (optionsOf s) env f (some (f.value (f.content s))) := by
  have hdistinct : Field.all.Nodup := by decide
  obtain ⟨before, after, hsplit⟩ := List.append_of_mem f.mem_all
  refine .option (by rw [optionsOf, hsplit, List.map_append, List.map_cons]) f.fieldName_name fun o ho hname => ?_
  obtain ⟨f', hf', rfl⟩ := List.mem_map.1 ho
  rw [f'.fieldName_name] at hname
  cases Field.name_injective hname
  rw [hsplit, List.nodup_append, List.nodup_cons] at hdistinct
  exact hdistinct.2.1.1 hf'

/-- Settings can be loaded exactly when each of their fields holds what it can hold. -/
theorem exists_load_iff {s : Settings} :
    (∃ options env, load options env = .ok s) ↔ ∀ f : Field, f.Valid (f.content s) := by
  constructor
  · rintro ⟨options, env, hload⟩ f
    obtain ⟨given, hwins⟩ := exists_wins options env f
    exact Field.valid_of_taken (load_eq_ok_iff.1 hload f given hwins)
  · intro hvalid
    refine ⟨optionsOf s, [], load_eq_ok_iff.2 fun f given hwins => ?_⟩
    cases (wins_iff.1 (wins_optionsOf s [] f)).symm.trans (wins_iff.1 hwins)
    exact Field.read_value (hvalid f)

end LintBridge.Settings
