import Mathlib.Data.List.Basic
import Mathlib.Tactic.Lemma
import StyleBuild.Pattern.Match

/-!
# Greedy runs of characters

A greedy run passes as many characters as it can and gives them back one by one until what comes
after it succeeds.  The matcher does that on places with a memory; what it comes to is said on
texts, of which a place is a cut in two (`Place.between`).

* Every place that is tried is past some of the characters ahead, all of which pass the test
  (`Place.mem_through`).  So a run fails when what comes after it fails behind all of these
  (`Chars.run_greedy_failed`).
* When all characters ahead pass, the first place that is tried is the end of the text
  (`Place.through_of_passes`), and the run goes on from there if that succeeds
  (`Chars.run_greedy_of_passes`).
-/

namespace StyleBuild.Pattern

namespace Place

variable {test : CharTest} {q : Place} {before rest : Text} {soFar : List Place} {c : Char}

/-- The place between two parts of a text. -/
def between (before rest : Text) : Place := ⟨before.reverse, rest, before.length⟩

lemma between_concat (before rest : Text) (c : Char) :
    (⟨c :: (between before (c :: rest)).before, rest, (between before (c :: rest)).position + 1⟩ :
      Place) = between (before ++ [c]) rest := by
  simp only [between, List.reverse_append, List.reverse_singleton, List.singleton_append,
    List.length_append, List.length_singleton]

lemma pass?_between (test : CharTest) (before rest : Text) (c : Char) :
    (between before (c :: rest)).pass? test =
      if test.passes c then some (between (before ++ [c]) rest) else none := by
  rw [← between_concat]
  rfl

/-- A place that is reached between two parts of a text, through characters that pass a test. -/
def PassesTo (test : CharTest) (before rest : Text) (q : Place) : Prop :=
  ∃ passed ahead, rest = passed ++ ahead ∧ (∀ c ∈ passed, test.passes c = true) ∧
    q = between (before ++ passed) ahead

lemma PassesTo.refl (test : CharTest) (before rest : Text) :
    PassesTo test before rest (between before rest) :=
  ⟨[], rest, rfl, nofun, by rw [List.append_nil]⟩

lemma PassesTo.cons (hc : test.passes c = true) (h : PassesTo test (before ++ [c]) rest q) :
    PassesTo test before (c :: rest) q := by
  obtain ⟨passed, ahead, rfl, hpassed, rfl⟩ := h
  refine ⟨c :: passed, ahead, rfl, List.forall_mem_cons.2 ⟨hc, hpassed⟩, ?_⟩
  rw [List.append_assoc, List.singleton_append]

lemma PassesTo.of_mem_cons (h : q ∈ between before rest :: soFar) :
    q ∈ soFar ∨ PassesTo test before rest q := by
  rcases List.mem_cons.1 h with rfl | hq
  · exact Or.inr (.refl test before rest)
  · exact Or.inl hq

lemma through_cons (test : CharTest) (before rest : Text) (c : Char) (soFar : List Place) :
    (between before (c :: rest)).through test none (c :: rest) soFar =
      if test.passes c then
        (between (before ++ [c]) rest).through test none rest (between before (c :: rest) :: soFar)
      else between before (c :: rest) :: soFar := by
  rw [← between_concat]
  rfl

/-- **A place that is tried** is past characters that pass the test. -/
theorem mem_through (h : q ∈ (between before rest).through test none rest soFar) :
    q ∈ soFar ∨ PassesTo test before rest q := by
  induction rest generalizing before soFar with
  | nil => exact PassesTo.of_mem_cons h
  | cons c rest ih =>
    rw [through_cons] at h
    split_ifs at h with hc
    · rcases ih h with hq | hpast
      · exact PassesTo.of_mem_cons hq
      · exact Or.inr (hpast.cons hc)
    · exact PassesTo.of_mem_cons h

/-- **The farthest place comes first.** -/
theorem through_of_passes (before : Text) (soFar : List Place)
    (h : ∀ c ∈ rest, test.passes c = true) :
    ∃ others, (between before rest).through test none rest soFar =
        between (before ++ rest) [] :: others ∧
      others.length = rest.length + soFar.length := by
  induction rest generalizing before soFar with
  | nil => exact ⟨soFar, by rw [List.append_nil]; rfl, (Nat.zero_add _).symm⟩
  | cons c rest ih =>
    obtain ⟨hc, hrest⟩ := List.forall_mem_cons.1 h
    obtain ⟨others, hothers, hlength⟩ :=
      ih (before ++ [c]) (between before (c :: rest) :: soFar) hrest
    refine ⟨others, ?_, ?_⟩
    · rw [through_cons, if_pos hc, hothers, List.append_assoc, List.singleton_append]
    · rw [hlength, List.length_cons, List.length_cons]
      omega

lemma hasRoom_iff {n : ℕ} : (between before rest).hasRoom n = true ↔ n ≤ rest.length := by
  have hdrop : (rest.drop (n - 1)).isEmpty = true ↔ rest.length ≤ n - 1 := by
    rw [List.isEmpty_iff, List.drop_eq_nil_iff]
  rw [hasRoom, Bool.or_eq_true, decide_eq_true_eq, Bool.not_eq_true', ← Bool.not_eq_true, between,
    hdrop]
  omega

end Place

namespace Chars

variable {r : Chars} {next : Option CharTest} {k : Continuation} {saved m : Memory}
  {before rest : Text} {places : List Place}

lemma tryEach_failed (h : ∀ q ∈ places, ∀ m, (k q m).succeeded = false) :
    (r.tryEach next k saved places m).succeeded = false := by
  induction places generalizing m with
  | nil => rfl
  | cons q places ih =>
    obtain ⟨hq, hplaces⟩ := List.forall_mem_cons.1 h
    rw [tryEach]
    split_ifs
    · rw [Try.orElse, hq]
      exact ih hplaces
    · exact ih hplaces

/-- **A greedy run fails** when what comes after it fails wherever the run may end. -/
theorem run_greedy_failed (hmost : r.most = none)
    (h : ∀ q, Place.PassesTo r.test before rest q → ∀ m, (k q m).succeeded = false) :
    (r.run .greedy next (.between before rest) m k).succeeded = false := by
  rw [run]
  split
  · rfl
  · simp only [greedy, hmost]
    split_ifs
    · rfl
    · refine tryEach_failed fun q hq => ?_
      rcases Place.mem_through (List.mem_of_mem_take hq) with hnone | hpast
      · cases hnone
      · exact h q hpast

/-- A run fails when there are too few characters. -/
lemma run_greedy_of_length_lt (h : rest.length < r.least) :
    (r.run .greedy next (.between before rest) m k).succeeded = false := by
  have hroom : (!(Place.between before rest).hasRoom r.least) = true := by
    rw [Bool.not_eq_true', ← Bool.not_eq_true, Place.hasRoom_iff, Nat.not_le]
    exact h
  rw [run, if_pos hroom]
  rfl

/-- **A greedy run goes on from the end of the text** when it gets there and what comes after it
succeeds there. -/
theorem run_greedy_of_passes (before : Text) (m : Memory) (hmost : r.most = none)
    (hleast : r.least ≤ rest.length) (hpasses : ∀ c ∈ rest, r.test.passes c = true)
    (h : ∀ m, (k (.between (before ++ rest) []) m).succeeded = true) :
    ∃ m', r.run .greedy none (.between before rest) m k = k (.between (before ++ rest) []) m' := by
  obtain ⟨others, hothers, hlength⟩ := Place.through_of_passes before [] hpasses
  have hplaces : (Place.between before rest).through r.test none
      (Place.between before rest).rest [] = .between (before ++ rest) [] :: others := hothers
  have hroom : (!(Place.between before rest).hasRoom r.least) = false := by
    rw [Place.hasRoom_iff.2 hleast]
    rfl
  -- At least the farthest place is left when the ones that are too near are not tried.
  obtain ⟨n, hn⟩ : ∃ n, (Place.between (before ++ rest) [] :: others).length - r.least = n + 1 := by
    refine Nat.exists_eq_succ_of_ne_zero (Nat.sub_ne_zero_of_lt ?_)
    rw [List.length_cons, hlength, List.length_nil]
    omega
  rw [run, hroom]
  simp only [Bool.false_eq_true, if_false, greedy, hmost, hplaces, hn, List.take_succ_cons,
    reduceCtorEq, tryEach, Option.filter_none, Option.all_none, if_true, Try.orElse, h]
  exact ⟨_, rfl⟩

end Chars

end StyleBuild.Pattern
