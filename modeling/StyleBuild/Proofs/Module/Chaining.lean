import StyleBuild.Module.Specifier
import StyleBuild.Proofs.Settings.Tables

/-!
# Entries that feed each other

The entries of the two tables are applied one after the other, so an entry should apply to whatever
the entries before it have made of the path.  A path is compared as a key, that is without
separators in front: they are removed before the first entry, and again from the outcome.

They are not removed in between.  An entry whose replacement is empty stands for the module root,
and where it is applied to a whole segment it uncovers the separator after it (`Rule.Uncovers`).  No
entry that was accepted matches a path with a separator in front (`Rule.Trimmed.rest?_eq_none`), so
from there on nothing changes any more (`Rule.all_of_head?`).  Nothing else brings a separator to
the front (`Rule.exists_uncovers`).

`chains_iff` puts this together: the entries chain exactly when no entry uncovers a path that a
later one would match, and an import means what was uncovered first.  So they always chain when no
replacement but the last one is empty (`Accepted.chains_of_values`).  `not_forall_chains` is the
case of two aliases.
-/

namespace StyleBuild

/-- An entry of one of the two tables.  It matches a key of whole segments, or of characters. -/
structure Rule where
  whole : Bool
  key : Text
  value : Text
  deriving DecidableEq, Repr

namespace Rule

/-- What follows the key in a path that the rule matches. -/
def rest? (r : Rule) (path : Text) : Option Text :=
  if r.whole then
    if path = r.key then some []
    else (Text.after? (r.key ++ [Path.separator]) path).map (Path.separator :: ·)
  else Text.after? r.key path

/-- The path after a rule. -/
def apply (r : Rule) (path : Text) : Text :=
  if r.whole then Path.anchored path r.key r.value else Path.raw path r.key r.value

/-- The path after rules that are applied in order. -/
def all (rules : List Rule) (path : Text) : Text := rules.foldl (fun p r => r.apply p) path

/-- The rule replaces what stands before a separator by nothing. -/
def Uncovers (r : Rule) (path : Text) : Prop :=
  r.value = [] ∧ ∃ rest, r.rest? path = some (Path.separator :: rest)

/-- A rule as it comes out of accepted settings. -/
structure Trimmed (r : Rule) : Prop where
  key_ne_nil : r.key ≠ []
  key : r.key.head? ≠ some Path.separator
  value : r.value.head? ≠ some Path.separator

variable {r : Rule} {rules : List Rule} {path rest : Text}

lemma eq_append_of_rest? (h : r.rest? path = some rest) : path = r.key ++ rest := by
  unfold rest? at h
  split_ifs at h with hwhole hself
  · rw [hself, ← Option.some.inj h, List.append_nil]
  · obtain ⟨tail, htail, rfl⟩ := Option.map_eq_some_iff.1 h
    rw [Text.after?_eq_some_iff.1 htail, List.append_assoc]
    rfl
  · exact Text.after?_eq_some_iff.1 h

/-- **What a rule does**: the key is replaced where the rule matches, and nothing else happens. -/
theorem apply_eq (r : Rule) (path : Text) :
    r.apply path = match r.rest? path with
      | some rest => r.value ++ rest
      | none => path := by
  unfold apply rest? Path.anchored Path.raw
  split_ifs with hwhole hself
  · exact (List.append_nil _).symm
  · cases Text.after? (r.key ++ [Path.separator]) path <;> rfl
  · cases Text.after? r.key path <;> rfl

lemma apply_of_some (h : r.rest? path = some rest) : r.apply path = r.value ++ rest := by
  rw [apply_eq, h]

lemma apply_of_none (h : r.rest? path = none) : r.apply path = path := by
  rw [apply_eq, h]

lemma all_cons (r : Rule) (rules : List Rule) (path : Text) :
    all (r :: rules) path = all rules (r.apply path) := rfl

lemma all_append (rules later : List Rule) (path : Text) :
    all (rules ++ later) path = all later (all rules path) := List.foldl_append

/-! ## Separators in front -/

/-- No rule matches a path with a separator in front. -/
lemma Trimmed.rest?_eq_none (trimmed : r.Trimmed) (h : path.head? = some Path.separator) :
    r.rest? path = none := by
  by_contra hsome
  obtain ⟨rest, hrest⟩ := Option.ne_none_iff_exists'.1 hsome
  rw [eq_append_of_rest? hrest, List.head?_append_of_ne_nil _ trimmed.key_ne_nil] at h
  exact trimmed.key h

/-- Rules that do not match change nothing. -/
lemma all_of_rest?_eq_none (h : ∀ r ∈ rules, r.rest? path = none) : all rules path = path := by
  induction rules with
  | nil => rfl
  | cons r rules ih =>
    rw [List.forall_mem_cons] at h
    rw [all_cons, apply_of_none h.1]
    exact ih h.2

/-- **Once a separator is in front, nothing changes any more.** -/
theorem all_of_head? (trimmed : ∀ r ∈ rules, r.Trimmed) (h : path.head? = some Path.separator) :
    all rules path = path :=
  all_of_rest?_eq_none fun r hr => (trimmed r hr).rest?_eq_none h

/-- A rule brings a separator to the front by uncovering it. -/
lemma Trimmed.uncovers (trimmed : r.Trimmed) (hpath : path.head? ≠ some Path.separator)
    (h : (r.apply path).head? = some Path.separator) : r.Uncovers path := by
  cases hrest : r.rest? path with
  | none =>
    rw [apply_of_none hrest] at h
    exact absurd h hpath
  | some rest =>
    rw [apply_of_some hrest] at h
    by_cases hvalue : r.value = []
    · rw [hvalue, List.nil_append] at h
      obtain ⟨tail, rfl⟩ := List.head?_eq_some_iff.1 h
      exact ⟨hvalue, tail, hrest⟩
    · rw [List.head?_append_of_ne_nil _ hvalue] at h
      exact absurd h trimmed.value

lemma Uncovers.head? (h : r.Uncovers path) : (r.apply path).head? = some Path.separator := by
  obtain ⟨hvalue, rest, hrest⟩ := h
  rw [apply_of_some hrest, hvalue]
  rfl

/-- **A separator in front was uncovered by a rule**, and is what that rule has left. -/
theorem exists_uncovers (trimmed : ∀ r ∈ rules, r.Trimmed)
    (hpath : path.head? ≠ some Path.separator)
    (h : (all rules path).head? = some Path.separator) :
    ∃ before r later, rules = before ++ r :: later ∧ r.Uncovers (all before path) ∧
      all rules path = r.apply (all before path) := by
  induction rules generalizing path with
  | nil => exact absurd h hpath
  | cons r rules ih =>
    rw [List.forall_mem_cons] at trimmed
    by_cases hfront : (r.apply path).head? = some Path.separator
    · exact ⟨[], r, rules, rfl, trimmed.1.uncovers hpath hfront, all_of_head? trimmed.2 hfront⟩
    · obtain ⟨before, r', later, rfl, huncovers, hall⟩ := ih trimmed.2 hfront h
      exact ⟨r :: before, r', later, rfl, huncovers, hall⟩

/-- Where a separator is in front, a rule that matches the key form is not applied to it. -/
lemma Trimmed.apply_ne (trimmed : r.Trimmed) (hpath : path.head? = some Path.separator)
    (h : r.rest? (Path.stripFront path) = some rest) : r.apply path ≠ r.value ++ rest := by
  rw [apply_of_none (trimmed.rest?_eq_none hpath)]
  intro heq
  by_cases hvalue : r.value = []
  · -- Then the whole path would be what follows the key in it.
    rw [hvalue, List.nil_append] at heq
    have hlength := congrArg List.length (eq_append_of_rest? h)
    have hle := (List.dropWhile_suffix (· = Path.separator) (l := path)).length_le
    have hkey := List.length_pos_of_ne_nil trimmed.key_ne_nil
    rw [List.length_append, ← heq, Path.stripFront] at hlength
    omega
  · rw [heq, List.head?_append_of_ne_nil _ hvalue] at hpath
    exact trimmed.value hpath

/-- What was uncovered is the outcome, whatever rules follow. -/
lemma all_of_uncovers {before later : List Rule} (trimmed : ∀ r ∈ later, r.Trimmed)
    (huncovers : r.Uncovers (all before path)) :
    all (before ++ r :: later) path = r.apply (all before path) := by
  rw [all_append, all_cons, all_of_head? trimmed huncovers.head?]

/-! ## Chaining -/

/-- Every rule that matches the path so far, written as a key, is applied to that key. -/
def Chain (rules : List Rule) (path : Text) : Prop :=
  ∀ before r later rest, rules = before ++ r :: later →
    r.rest? (Path.stripFront (all before path)) = some rest →
      r.apply (all before path) = r.value ++ rest

/-- No rule uncovers a path that a later one matches. -/
def Apart (rules : List Rule) (path : Text) : Prop :=
  ∀ before r later, rules = before ++ r :: later → r.Uncovers (all before path) →
    ∀ r' ∈ later, r'.rest? (Path.stripFront (r.apply (all before path))) = none

lemma Chain.apart (trimmed : ∀ r ∈ rules, r.Trimmed) (chain : Chain rules path) :
    Apart rules path := by
  intro before r later hrules huncovers r' hr'
  by_contra hsome
  obtain ⟨rest, hrest⟩ := Option.ne_none_iff_exists'.1 hsome
  obtain ⟨between, after, rfl⟩ := List.append_of_mem hr'
  subst hrules
  have hbetween : ∀ q ∈ between, q.Trimmed := fun q hq => trimmed q (by simp [hq])
  have hall := all_of_uncovers hbetween huncovers
  have happlied := chain (before ++ r :: between) r' after rest (by simp)
  rw [hall] at happlied
  exact (trimmed r' (by simp)).apply_ne huncovers.head? hrest (happlied hrest)

lemma Apart.chain (trimmed : ∀ r ∈ rules, r.Trimmed) (hpath : path.head? ≠ some Path.separator)
    (apart : Apart rules path) : Chain rules path := by
  intro before r later rest hrules hrest
  subst hrules
  have hbefore : ∀ q ∈ before, q.Trimmed := fun q hq => trimmed q (List.mem_append_left _ hq)
  by_cases hfront : (all before path).head? = some Path.separator
  -- Then an earlier rule has uncovered it, and `r` is a later one.
  · obtain ⟨before, q, between, rfl, huncovers, hall⟩ := exists_uncovers hbefore hpath hfront
    have hnone := apart before q (between ++ r :: later) (by simp) huncovers r
      (List.mem_append_right _ List.mem_cons_self)
    rw [hall, hnone] at hrest
    cases hrest
  · rw [Path.stripFront_of_head?_ne hfront] at hrest
    exact apply_of_some hrest

lemma apart_cons {r : Rule} {rules : List Rule} {path : Text} :
    Apart (r :: rules) path ↔
      (r.Uncovers path → ∀ r' ∈ rules, r'.rest? (Path.stripFront (r.apply path)) = none) ∧
        Apart rules (r.apply path) := by
  constructor
  · intro apart
    refine ⟨apart [] r rules rfl, fun before q later hrules => ?_⟩
    exact apart (r :: before) q later (congrArg _ hrules)
  · rintro ⟨hfirst, apart⟩ before q later hrules
    cases before with
    | nil =>
      obtain ⟨rfl, rfl⟩ := List.cons.inj hrules
      exact hfirst
    | cons q' before =>
      obtain ⟨rfl, hrest⟩ := List.cons.inj hrules
      exact apart before q later hrest

instance (r : Rule) (path : Text) : Decidable (r.Uncovers path) :=
  decidable_of_iff (r.value = [] ∧ (r.rest? path).bind List.head? = some Path.separator) <| by
    refine and_congr_right fun _ => ?_
    rw [Option.bind_eq_some_iff]
    constructor
    · rintro ⟨rest, hrest, hhead⟩
      obtain ⟨tail, rfl⟩ := List.head?_eq_some_iff.1 hhead
      exact ⟨tail, hrest⟩
    · rintro ⟨tail, htail⟩
      exact ⟨_, htail, rfl⟩

instance : (rules : List Rule) → (path : Text) → Decidable (Apart rules path)
  | [], _ => isTrue fun before _ _ hrules => by cases before <;> cases hrules
  | r :: rules, path =>
    have := instDecidableApart rules (r.apply path)
    decidable_of_iff _ apart_cons.symm

/-- Rules that replace by something do not uncover anything; the last one may, since no rule
follows. -/
lemma apart_of_values (h : ∀ before r later, rules = before ++ r :: later → later ≠ [] →
    r.value ≠ []) (path : Text) : Apart rules path := by
  intro before r later hrules huncovers r' hr'
  exact absurd huncovers.1 (h before r later hrules (List.ne_nil_of_mem hr'))

end Rule

namespace Settings

/-- The entries of both tables, in the order in which they are applied. -/
def rules (s : Settings) : List Rule :=
  s.aliases.entries.map (fun e => ⟨true, e.1, e.2⟩) ++
    s.replace.entries.map (fun e => ⟨false, e.1, e.2⟩)

/-- The substitution is made by the rules. -/
lemma substitute_eq_all (s : Settings) (path : Text) : s.substitute path = Rule.all s.rules path := by
  rw [substitute, rules, Rule.all_append, Rule.all, Rule.all, List.foldl_map, List.foldl_map]
  rfl

lemma Accepted.trimmed_rules {s : Settings} (accepted : s.Accepted) {r : Rule} (h : r ∈ s.rules) :
    r.Trimmed := by
  rw [rules, List.mem_append, List.mem_map, List.mem_map] at h
  rcases h with ⟨e, he, rfl⟩ | ⟨e, he, rfl⟩
  · obtain ⟨hne, hkey, hvalue⟩ := accepted.trimmed (.inl he)
    exact ⟨hne, hkey.front, hvalue.front⟩
  · obtain ⟨hne, hkey, hvalue⟩ := accepted.trimmed (.inr he)
    exact ⟨hne, hkey.front, hvalue.front⟩

/-- The path that the first entry is applied to. -/
def startPath (s : Settings) (specifier directory : Text) : Text :=
  Path.stripFront (Specifier.settle s.resolveRelative specifier directory)

/-- An import is what the rules make of its path, as a key. -/
lemma resolveImport_eq_all (s : Settings) (specifier directory : Text) :
    s.resolveImport specifier directory =
      Path.stripFront (Rule.all s.rules (s.startPath specifier directory)) := by
  rw [resolveImport, substitute_eq_all, startPath]

/-- While a specifier is resolved, every entry that matches the key of the path so far is applied. -/
def Chains (s : Settings) (specifier directory : Text) : Prop :=
  Rule.Chain s.rules (s.startPath specifier directory)

/-- **Entries chain exactly when none of them uncovers a path that a later one matches.**  Where one
does uncover a path, the import means that path, whatever entries follow. -/
theorem chains_iff {s : Settings} (accepted : s.Accepted) (specifier directory : Text) :
    (s.Chains specifier directory ↔ Rule.Apart s.rules (s.startPath specifier directory)) ∧
      ∀ before rule later, s.rules = before ++ rule :: later →
        rule.Uncovers (Rule.all before (s.startPath specifier directory)) →
          s.resolveImport specifier directory = Path.stripFront
            (rule.apply (Rule.all before (s.startPath specifier directory))) := by
  have trimmed : ∀ r ∈ s.rules, r.Trimmed := fun r => accepted.trimmed_rules
  have hstart : (s.startPath specifier directory).head? ≠ some Path.separator :=
    Path.head?_stripFront _
  refine ⟨⟨Rule.Chain.apart trimmed, Rule.Apart.chain trimmed hstart⟩, ?_⟩
  intro before rule later hrules huncovers
  have hlater : ∀ r ∈ later, r.Trimmed := fun r hr => trimmed r (by
    rw [hrules]
    exact List.mem_append_right _ (List.mem_cons_of_mem _ hr))
  rw [resolveImport_eq_all, hrules, Rule.all_of_uncovers hlater huncovers]

/-- **All entries chain** when no replacement but the last one is empty. -/
theorem Accepted.chains_of_values {s : Settings} (accepted : s.Accepted)
    (h : ∀ before r later, s.rules = before ++ r :: later → later ≠ [] → r.value ≠ [])
    (specifier directory : Text) : s.Chains specifier directory :=
  (Rule.apart_of_values h _).chain (fun _ => accepted.trimmed_rules) (Path.head?_stripFront _)

end Settings

/-! ### An alias of the module root

The alias `a` stands for the module root, and `b` for `c`. -/

namespace Chaining

def settings : Settings :=
  { Settings.default with
    aliases := ⟨[("a".toList, []), ("b".toList, "c".toList)], by decide⟩
    replace := ⟨[("old".toList, "new".toList)], by decide⟩ }

lemma settings_accepted : settings.Accepted :=
  ⟨.map [(.text "alias".toList, .map [(.text "a".toList, .scalar (.text "/".toList)),
      (.text "b".toList, .scalar (.text "c".toList))]),
    (.text "replace".toList, .map [(.text "/old".toList, .scalar (.text "new".toList))])], rfl⟩

/-- What `a` uncovers in `a/d/b` begins with none of the other keys. -/
theorem chains_past_root :
    settings.Accepted ∧ settings.Chains "a/d/b".toList [] ∧
      settings.resolveImport "a/d/b".toList [] = "d/b".toList := by
  have hstart : settings.startPath "a/d/b".toList [] = "a/d/b".toList := by decide +kernel
  obtain ⟨hiff, huncovered⟩ := Settings.chains_iff settings_accepted "a/d/b".toList []
  rw [hstart] at hiff huncovered
  refine ⟨settings_accepted, hiff.2 (by decide), ?_⟩
  exact (huncovered [] ⟨true, "a".toList, []⟩ _ rfl (by decide)).trans (by decide)

/-- **Entries do not chain in general.**  In `a/b/x` the alias `a` uncovers `b/x`, and `b` is not
applied to it. -/
theorem not_forall_chains :
    ¬ ∀ (s : Settings), s.Accepted → ∀ specifier directory, s.Chains specifier directory := by
  intro h
  have hstart : settings.startPath "a/b/x".toList [] = "a/b/x".toList := by decide +kernel
  have happlied := h settings settings_accepted "a/b/x".toList [] [⟨true, "a".toList, []⟩]
    ⟨true, "b".toList, "c".toList⟩ [⟨false, "old".toList, "new".toList⟩] "/x".toList rfl
  rw [hstart] at happlied
  exact absurd (happlied (by decide)) (by decide)

end Chaining

end StyleBuild
