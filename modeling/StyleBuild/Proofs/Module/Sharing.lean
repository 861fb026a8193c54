import Mathlib.Logic.Function.Basic
import StyleBuild.Proofs.Compile.Imports

/-!
# Importers that share a ledger

Targets may be compiled at the same time.  Each compilation has an importer of its own, and all of
them enter what they find in one ledger.  A `Pool` is such a set of importers at work.  A call of an
importer is two steps, so that calls overlap: it finds its reply from its own memory and the
registry, and later it enters what it found in the ledger and returns.  Only the second step touches
the ledger, and it is a single one, since usage and graph are updated under one lock.  A call that
nothing comes between is what a question is in a dialogue (`Pool.run_find_enter`).

`Pool.Follows` is the invariant of a pool that works through any moves.  Each worker is where its
own questions bring it, whatever the others do (`Worker.Tracks`), and what was recorded in the
ledger since the beginning is exactly what was found by the calls that have returned.  One move
keeps it (`Pool.Follows.step`), since it is an act of one worker (`Pool.step_cases`), and so does
every run (`Pool.Follows.run`).  In the same way the moves of one worker can be taken out of a run
and made alone (`Pool.exists_run_alone`).
-/

namespace StyleBuild

/-- What an importer is asked: a specifier, and the name of the document that it is written in. -/
structure Question where
  specifier : Text
  previous : Option Text
  deriving DecidableEq, Repr

/-! ## One importer alone -/

namespace Importer

variable {i : Importer} {memory : Memory} {q : Question} {qs : List Question} {r : Reply}
  {u : Target}

def reply (i : Importer) (memory : Memory) (q : Question) : Reply :=
  i.call memory q.specifier q.previous

/-- The memory after questions that were asked one after the other. -/
def after (i : Importer) : Memory → List Question → Memory
  | memory, [] => memory
  | memory, q :: qs => i.after (i.reply memory q).memory qs

/-- The replies to questions that are asked one after the other. -/
def replies (i : Importer) : Memory → List Question → List Reply
  | _, [] => []
  | memory, q :: qs => i.reply memory q :: i.replies (i.reply memory q).memory qs

lemma after_concat (i : Importer) (memory : Memory) (qs : List Question) (q : Question) :
    i.after memory (qs ++ [q]) = (i.reply (i.after memory qs) q).memory := by
  induction qs generalizing memory with
  | nil => rfl
  | cons q' qs ih => exact ih _

lemma replies_concat (i : Importer) (memory : Memory) (qs : List Question) (q : Question) :
    i.replies memory (qs ++ [q]) =
      i.replies memory qs ++ [i.reply (i.after memory qs) q] := by
  induction qs generalizing memory with
  | nil => rfl
  | cons q' qs ih => exact congrArg _ (ih _)

/-- Every reply is the one to a question, with the memory that the questions before it left. -/
lemma mem_replies_iff : r ∈ i.replies memory qs ↔
    ∃ before q later, qs = before ++ q :: later ∧ i.reply (i.after memory before) q = r := by
  induction qs generalizing memory with
  | nil => simp [replies]
  | cons q qs ih =>
    rw [replies, List.mem_cons, ih]
    constructor
    · rintro (rfl | ⟨before, q', later, rfl, rfl⟩)
      · exact ⟨[], q, qs, rfl, rfl⟩
      · exact ⟨q :: before, q', later, rfl, rfl⟩
    · rintro ⟨before, q', later, hqs, rfl⟩
      cases before with
      | nil =>
        obtain ⟨rfl, rfl⟩ := List.cons.inj hqs
        exact .inl rfl
      | cons b before =>
        obtain ⟨rfl, rfl⟩ := List.cons.inj hqs
        exact .inr ⟨before, q', later, rfl, rfl⟩

/-- One of the questions means a registered module that is not in the indented syntax. -/
def Hits (i : Importer) (qs : List Question) (u : Target) : Prop :=
  ∃ before q later, qs = before ++ q :: later ∧
    i.registry.find? (i.resolve (i.after .empty before) q.specifier q.previous) = some u ∧
    u.isIndented = false

/-- What a reply enters is what the question means. -/
lemma imported_reply_iff : (i.reply memory q).imported = some u ↔
    i.registry.find? (i.resolve memory q.specifier q.previous) = some u ∧
      u.isIndented = false :=
  imported_call_iff

/-- The hits are what the replies enter. -/
lemma hits_iff : i.Hits qs u ↔ ∃ r ∈ i.replies .empty qs, r.imported = some u := by
  constructor
  · rintro ⟨before, q, later, rfl, hit⟩
    exact ⟨_, mem_replies_iff.2 ⟨before, q, later, rfl, rfl⟩, imported_reply_iff.2 hit⟩
  · rintro ⟨_, hr, himported⟩
    obtain ⟨before, q, later, rfl, rfl⟩ := mem_replies_iff.1 hr
    exact ⟨before, q, later, rfl, imported_reply_iff.1 himported⟩

/-- All registered targets are loaded and have a text. -/
def Readable (i : Importer) : Prop :=
  ∀ k t, i.registry.find? k = some t → ∃ text, t.text? = .ok text

/-- **A call that fails has found nothing**, if all targets can be read. -/
theorem imported_eq_none (readable : i.Readable) {f : Failure}
    (fails : (i.reply memory q).answer = .error f) : (i.reply memory q).imported = none := by
  cases himported : (i.reply memory q).imported with
  | none => rfl
  | some u =>
    obtain ⟨hfind, hindented⟩ := imported_reply_iff.1 himported
    obtain ⟨text, htext⟩ := readable _ u hfind
    simp [reply, call, hfind, hindented, provide, htext] at fails

end Importer

/-! ## One worker -/

/-- What a worker does next: it asks its importer, or lets the call return that it is in. -/
inductive Act
  | find (q : Question)
  | enter

/-- The question of a call that begins. -/
def Act.question? : Act → Option Question
  | find q => some q
  | enter => none

/-- An importer at work: what it remembers, the replies that it has given, and the reply that it has
found while a call has not returned yet. -/
structure Worker where
  memory : Memory
  replies : List Reply
  found : Option Reply

namespace Worker

variable {i : Importer} {w w' : Worker} {a : Act} {qs : List Question}

/-- A worker that was not asked yet. -/
def fresh : Worker := ⟨.empty, [], none⟩

/-- One act of a worker, if it can be done: a worker does one call at a time. -/
def step (i : Importer) (w : Worker) : Act → Option Worker
  | .find q =>
    match w.found with
    | none => some { w with found := some (i.reply w.memory q) }
    | some _ => none
  | .enter =>
    match w.found with
    | none => none
    | some r => some ⟨r.memory, w.replies ++ [r], none⟩

/-- A worker is where the questions bring it that were asked so far.  It may be in a call. -/
inductive Tracks (i : Importer) : List Question → Worker → Prop
  | idle (qs : List Question) : Tracks i qs ⟨i.after .empty qs, i.replies .empty qs, none⟩
  | busy (qs : List Question) (q : Question) : Tracks i (qs ++ [q])
      ⟨i.after .empty qs, i.replies .empty qs, some (i.reply (i.after .empty qs) q)⟩

/-- What a worker does depends on its own questions only. -/
lemma Tracks.step (tracks : Tracks i qs w) (h : w.step i a = some w') :
    Tracks i (qs ++ a.question?.toList) w' := by
  cases a with
  | find q =>
    cases tracks with
    | idle =>
      obtain rfl := Option.some.inj h
      exact .busy qs q
    | busy => cases h
  | enter =>
    rw [Act.question?, Option.toList_none, List.append_nil]
    cases tracks with
    | idle => cases h
    | busy qs q =>
      obtain rfl := Option.some.inj h
      rw [← Importer.after_concat, ← Importer.replies_concat]
      exact .idle _

/-- A worker that is in no call has replied to all questions. -/
lemma Tracks.of_idle (tracks : Tracks i qs w) (idle : w.found = none) :
    w.replies = i.replies .empty qs ∧ w.memory = i.after .empty qs := by
  cases tracks with
  | idle => exact ⟨rfl, rfl⟩
  | busy => cases idle

/-- The worker has returned from a call that found the target. -/
def Recorded (w : Worker) (u : Target) : Prop := ∃ r ∈ w.replies, r.imported = some u

/-- What an act enters in the ledger. -/
def entered (w : Worker) : Act → List Target
  | .find _ => []
  | .enter => (w.found.bind Reply.imported).toList

lemma recorded_step (h : w.step i a = some w') {u : Target} :
    w'.Recorded u ↔ w.Recorded u ∨ u ∈ w.entered a := by
  cases hfound : w.found with
  | none =>
    cases a with
    | find q =>
      simp only [step, hfound, Option.some.injEq] at h
      obtain rfl := h
      simp [Recorded, entered]
    | enter =>
      simp only [step, hfound] at h
      cases h
  | some r =>
    cases a with
    | find q =>
      simp only [step, hfound] at h
      cases h
    | enter =>
      simp only [step, hfound, Option.some.injEq] at h
      obtain rfl := h
      simp [Recorded, entered, hfound, or_and_right, exists_or]

end Worker

/-! ## All workers -/

/-- A move of a pool: one worker acts. -/
structure Move (ι : Type) where
  who : ι
  act : Act

/-- Importers at work, and the ledger that they share. -/
structure Pool (ι : Type) where
  workers : ι → Worker
  ledger : Ledger

namespace Pool

variable {ι : Type}

/-- The pool in which nobody was asked yet. -/
def opened (l : Ledger) : Pool ι := ⟨fun _ => .fresh, l⟩

/-- What an act does to the ledger: the call that returns enters what it has found. -/
def enter (i : Importer) (w : Worker) : Act → Ledger → Ledger
  | .find _, l => l
  | .enter, l => (w.found.map fun r => r.enter i.parent.path l).getD l

lemma enter_eq (i : Importer) (w : Worker) (a : Act) (l : Ledger) :
    enter i w a l = l.recordAll ((w.entered a).map fun t => ⟨i.parent.path, t.path⟩) := by
  cases a with
  | find q => rfl
  | enter =>
    rw [enter, Worker.entered]
    cases w.found with
    | none => rfl
    | some r =>
      rw [Option.map_some, Option.getD_some, Option.bind_some, Reply.enter]
      cases r.imported <;> rfl

variable [DecidableEq ι] (importers : ι → Importer)

/-- One move, if the worker can make it. -/
def step (pool : Pool ι) (m : Move ι) : Option (Pool ι) :=
  ((pool.workers m.who).step (importers m.who) m.act).map fun w =>
    ⟨Function.update pool.workers m.who w,
      enter (importers m.who) (pool.workers m.who) m.act pool.ledger⟩

/-- All moves, in their order. -/
def run (pool : Pool ι) (moves : List (Move ι)) : Option (Pool ι) :=
  moves.foldlM (step importers) pool

/-- The questions that the moves ask one of the importers. -/
def asked (j : ι) (moves : List (Move ι)) : List Question :=
  (moves.filter (·.who = j)).flatMap (·.act.question?.toList)

/-- What holds of a pool that began with a ledger and has made the given moves. -/
structure Follows (start : Ledger) (moves : List (Move ι)) (pool : Pool ι) : Prop where
  tracks : ∀ j, Worker.Tracks (importers j) (asked j moves) (pool.workers j)
  records : ∃ es, pool.ledger = start.recordAll es ∧ ∀ e, e ∈ es ↔
    ∃ j u, (pool.workers j).Recorded u ∧ e = ⟨(importers j).parent.path, u.path⟩

variable {importers} {pool pool' : Pool ι} {m : Move ι} {moves done : List (Move ι)}
  {start : Ledger}

lemma asked_concat (j : ι) (moves : List (Move ι)) (m : Move ι) :
    asked j (moves ++ [m]) =
      asked j moves ++ if m.who = j then m.act.question?.toList else [] := by
  by_cases hwho : m.who = j <;> simp [asked, hwho]

/-- **What a move does**: one worker acts, the others stay where they are. -/
theorem step_cases (h : pool.step importers m = some pool') :
    (pool.workers m.who).step (importers m.who) m.act = some (pool'.workers m.who) ∧
      (∀ j, m.who ≠ j → pool'.workers j = pool.workers j) ∧
      pool'.ledger = enter (importers m.who) (pool.workers m.who) m.act pool.ledger := by
  obtain ⟨w, hw, rfl⟩ := Option.map_eq_some_iff.1 h
  refine ⟨?_, fun j hj => Function.update_of_ne hj.symm w pool.workers, rfl⟩
  rw [hw]
  exact congrArg some (Function.update_self m.who w pool.workers).symm

/-- A move can be made when its worker can act. -/
lemma exists_step {w : Worker} (h : (pool.workers m.who).step (importers m.who) m.act = some w) :
    ∃ pool', pool.step importers m = some pool' ∧ pool'.workers m.who = w :=
  ⟨_, Option.map_eq_some_iff.2 ⟨w, h, rfl⟩, Function.update_self m.who w pool.workers⟩

/-- **One move keeps the invariant.** -/
theorem Follows.step (follows : Follows importers start done pool)
    (h : pool.step importers m = some pool') : Follows importers start (done ++ [m]) pool' := by
  obtain ⟨hacts, hothers, henter⟩ := step_cases h
  obtain ⟨es, hledger, hes⟩ := follows.records
  have hrecorded : ∀ j u, (pool'.workers j).Recorded u ↔
      (pool.workers j).Recorded u ∨ m.who = j ∧ u ∈ (pool.workers m.who).entered m.act := by
    intro j u
    by_cases hwho : m.who = j
    · rw [← hwho, Worker.recorded_step hacts, and_iff_right rfl]
    · rw [hothers j hwho, or_iff_left fun h => hwho h.1]
  constructor
  · intro j
    rw [asked_concat]
    by_cases hwho : m.who = j
    · rw [if_pos hwho, ← hwho]
      exact (follows.tracks m.who).step hacts
    · rw [if_neg hwho, List.append_nil, hothers j hwho]
      exact follows.tracks j
  · refine ⟨_, by rw [henter, enter_eq, hledger, ← Ledger.recordAll_append], fun e => ?_⟩
    rw [List.mem_append, hes, List.mem_map]
    constructor
    · rintro (⟨j, u, hold, rfl⟩ | ⟨u, hnew, rfl⟩)
      · exact ⟨j, u, (hrecorded j u).2 (.inl hold), rfl⟩
      · exact ⟨m.who, u, (hrecorded m.who u).2 (.inr ⟨rfl, hnew⟩), rfl⟩
    · rintro ⟨j, u, hu, rfl⟩
      rcases (hrecorded j u).1 hu with hold | ⟨rfl, hnew⟩
      · exact .inl ⟨j, u, hold, rfl⟩
      · exact .inr ⟨u, hnew, rfl⟩

/-- **Every run keeps the invariant.** -/
theorem Follows.run (follows : Follows importers start done pool)
    (h : pool.run importers moves = some pool') :
    Follows importers start (done ++ moves) pool' := by
  induction moves generalizing done pool with
  | nil =>
    obtain rfl := Option.some.inj h
    rwa [List.append_nil]
  | cons m moves ih =>
    obtain ⟨pool₁, hstep, hrest⟩ := Option.bind_eq_some_iff.1 h
    rw [List.append_cons]
    exact ih (follows.step hstep) hrest

/-- A pool that was just opened has done nothing. -/
lemma follows_opened (importers : ι → Importer) (l : Ledger) :
    Follows importers l [] (opened l) := by
  refine ⟨fun j => .idle [], [], rfl, fun e => ?_⟩
  refine iff_of_false List.not_mem_nil ?_
  rintro ⟨j, u, ⟨r, hr, -⟩, -⟩
  cases hr

/-- What a worker does among others it can do without them, and with any ledger. -/
theorem exists_run_alone {alone : Pool ι} {j : ι} (same : alone.workers j = pool.workers j)
    (h : pool.run importers moves = some pool') :
    ∃ alone', alone.run importers (moves.filter (·.who = j)) = some alone' ∧
      alone'.workers j = pool'.workers j := by
  induction moves generalizing pool alone with
  | nil =>
    obtain rfl := Option.some.inj h
    exact ⟨alone, rfl, same⟩
  | cons m moves ih =>
    obtain ⟨pool₁, hstep, hrest⟩ := Option.bind_eq_some_iff.1 h
    obtain ⟨hacts, hothers, -⟩ := step_cases hstep
    by_cases hwho : m.who = j
    · obtain rfl := hwho
      rw [← same] at hacts
      obtain ⟨alone₁, hown, hsame⟩ := exists_step hacts
      obtain ⟨alone', hrun, hlast⟩ := ih hsame hrest
      refine ⟨alone', ?_, hlast⟩
      rw [List.filter_cons_of_pos (by simp)]
      exact Option.bind_eq_some_iff.2 ⟨alone₁, hown, hrun⟩
    · rw [List.filter_cons_of_neg (by simpa using hwho)]
      exact ih (by rw [same, hothers j hwho]) hrest

/-- A call that nothing comes between is a question of a dialogue. -/
theorem run_find_enter {j : ι} {s : Session} (idle : (pool.workers j).found = none)
    (memory : (pool.workers j).memory = s.memory) (ledger : pool.ledger = s.ledger)
    (q : Question) : ∃ pool' r, pool.run importers [⟨j, .find q⟩, ⟨j, .enter⟩] = some pool' ∧
      (pool'.workers j).replies = (pool.workers j).replies ++ [r] ∧
      r.answer = (s.ask (importers j) q.specifier q.previous).1 ∧
      (pool'.workers j).memory = (s.ask (importers j) q.specifier q.previous).2.memory ∧
      pool'.ledger = (s.ask (importers j) q.specifier q.previous).2.ledger := by
  simp [run, step, Worker.step, enter, idle, memory, ledger, Session.ask, Importer.reply]

/-- **Importers that share a ledger do not disturb each other.**  Let them work through any moves
until every call has returned.  Then each of them is where its own moves bring it when nobody else
is there: it has replied, has given out names and has refused imports as it does when its questions
are asked one after the other.  What is new in the ledger are the modules that some question hit,
and the edges from the parent of its importer to them.  A call that fails enters nothing. -/
theorem run_undisturbed (readable : ∀ j, (importers j).Readable) {l : Ledger}
    (runs : (opened l).run importers moves = some pool)
    (idle : ∀ j, (pool.workers j).found = none) :
    (∀ j, (∃ alone, (opened l).run importers (moves.filter (·.who = j)) = some alone ∧
        alone.workers j = pool.workers j) ∧
      (pool.workers j).replies = (importers j).replies .empty (asked j moves) ∧
      (pool.workers j).memory = (importers j).after .empty (asked j moves)) ∧
    (∀ path, pool.ledger.usage.wasUsed path = true ↔ l.usage.wasUsed path = true ∨
      ∃ j u, (importers j).Hits (asked j moves) u ∧ u.path = path) ∧
    (∀ e, e ∈ pool.ledger.graph ↔ e ∈ l.graph ∨
      ∃ j u, (importers j).Hits (asked j moves) u ∧ e = ⟨(importers j).parent.path, u.path⟩) ∧
    ∀ j, ∀ r ∈ (pool.workers j).replies, ∀ f, r.answer = .error f →
      ∀ l', r.enter (importers j).parent.path l' = l' := by
  have follows := (follows_opened importers l).run runs
  rw [List.nil_append] at follows
  have halone := fun j => (follows.tracks j).of_idle (idle j)
  have hhits : ∀ j u, (pool.workers j).Recorded u ↔ (importers j).Hits (asked j moves) u := by
    intro j u
    rw [Worker.Recorded, (halone j).1, Importer.hits_iff]
  obtain ⟨es, hledger, hes⟩ := follows.records
  simp only [hhits] at hes
  refine ⟨fun j => ⟨exists_run_alone rfl runs, halone j⟩, ?_, ?_, ?_⟩
  · intro path
    rw [hledger, Ledger.wasUsed_recordAll]
    refine or_congr_right ⟨?_, ?_⟩
    · rintro ⟨e, he, rfl⟩
      obtain ⟨j, u, hit, rfl⟩ := (hes e).1 he
      exact ⟨j, u, hit, rfl⟩
    · rintro ⟨j, u, hit, rfl⟩
      exact ⟨_, (hes _).2 ⟨j, u, hit, rfl⟩, rfl⟩
  · intro e
    rw [hledger, Ledger.mem_recordAll, hes]
  · intro j r hr f fails l'
    rw [(halone j).1] at hr
    obtain ⟨before, q, later, -, rfl⟩ := Importer.mem_replies_iff.1 hr
    rw [Reply.enter, Importer.imported_eq_none (readable j) fails]

end Pool

/-! ### Two importers

`page` and `print` are compiled at the same time.  Both import `card`; between these calls `print`
asks for `icon`, which is in the indented syntax, and `page` for a module that is not there. -/

namespace Sharing

def sheet (path : String) : Target := (Target.fresh path.toList [] false).load

def registry : Registry where
  entries := [("page".toList, sheet "page.scss"), ("print".toList, sheet "print.scss"),
    ("card".toList, sheet "card.scss"), ("icon".toList, sheet "icon.sass")]
  nodup := by decide

def importers (isPage : Bool) : Importer :=
  ⟨registry, .default, sheet (if isPage then "page.scss" else "print.scss")⟩

def ask (specifier : String) : Act := .find ⟨specifier.toList, none⟩

def moves : List (Move Bool) := [
  ⟨true, ask "./card"⟩, ⟨false, ask "./icon"⟩, ⟨true, .enter⟩, ⟨true, ask "./gone"⟩,
  ⟨false, .enter⟩, ⟨false, ask "./card"⟩, ⟨true, .enter⟩, ⟨false, .enter⟩]

theorem run_undisturbed_page_print :
    ∃ pool, (Pool.opened ⟨.empty, .empty⟩).run importers moves = some pool ∧
      (pool.workers true).memory = ⟨["card".toList],
        [.missing "./gone".toList "gone".toList (some "page.scss".toList)]⟩ ∧
      (pool.workers false).memory = ⟨["card".toList],
        [.indented "./icon".toList "icon.sass".toList (some "print.scss".toList)]⟩ ∧
      ⟨"page.scss".toList, "card.scss".toList⟩ ∈ pool.ledger.graph ∧
      ⟨"print.scss".toList, "card.scss".toList⟩ ∈ pool.ledger.graph ∧
      pool.ledger.usage.wasUsed "card.scss".toList = true := by
  have readable : ∀ j, (importers j).Readable := by
    have htexts : ∀ e ∈ registry.entries, e.2.text? = .ok [] := by decide +kernel
    exact fun j k t hfind => ⟨[], htexts (k, t) (Table.find?_eq_some_iff.1 hfind)⟩
  have hreturned : ((Pool.opened ⟨.empty, .empty⟩).run importers moves).map
      (fun pool => (pool.workers true).found.isNone && (pool.workers false).found.isNone)
        = some true := by decide +kernel
  cases runs : (Pool.opened ⟨.empty, .empty⟩).run importers moves with
  | none =>
    rw [runs] at hreturned
    cases hreturned
  | some pool =>
    rw [runs] at hreturned
    have hidle := Bool.and_eq_true_iff.1 (Option.some.inj hreturned)
    have idle : ∀ j, (pool.workers j).found = none := by
      rintro (_ | _)
      · exact Option.isNone_iff_eq_none.1 hidle.2
      · exact Option.isNone_iff_eq_none.1 hidle.1
    obtain ⟨halone, husage, hgraph, -⟩ := Pool.run_undisturbed readable runs idle
    have hpage : (importers true).Hits (Pool.asked true moves) (sheet "card.scss") :=
      ⟨[], ⟨"./card".toList, none⟩, [⟨"./gone".toList, none⟩], by decide +kernel,
        by decide +kernel, rfl⟩
    have hprint : (importers false).Hits (Pool.asked false moves) (sheet "card.scss") :=
      ⟨[⟨"./icon".toList, none⟩], ⟨"./card".toList, none⟩, [], by decide +kernel,
        by decide +kernel, rfl⟩
    refine ⟨pool, rfl, ?_, ?_, ?_, ?_, ?_⟩
    · rw [(halone true).2.2]
      decide +kernel
    · rw [(halone false).2.2]
      decide +kernel
    · exact (hgraph _).2 (.inr ⟨true, _, hpage, rfl⟩)
    · exact (hgraph _).2 (.inr ⟨false, _, hprint, rfl⟩)
    · exact (husage _).2 (.inr ⟨true, _, hpage, rfl⟩)

end Sharing

end StyleBuild
