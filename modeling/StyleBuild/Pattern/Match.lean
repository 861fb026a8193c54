import StyleBuild.Pattern.Syntax

/-!
# Matching

A tree is matched at a place in the text by recursion on the tree, with a continuation for what
comes after it: a tree matches when some way through it makes the continuation succeed, and the
order in which the ways are tried is the order of preference.

Groups are remembered as two marks each, where the group began and where it ended, and a group that
begins again keeps its old end until it has a new one.  So a group counts as matched while its end
is not before its beginning (`Memory.span?`).

The memory outlives a try that failed.  Before the next way is tried, the marks are taken back: all
of them inside a repetition, but only the new ones outside (`Memory.undo`).  A possessive repetition
goes on from where the last try came to, be it one that failed (`Memory.reached`).

Only repetition can go round without end.  A round beyond the least number is tried only if the
place has changed since the last such round began, so there are at most as many of them as there
are characters left, and one more.  `Rounds` counts down from that number.
-/

namespace StyleBuild.Pattern

/-- A place in a text. -/
structure Place where
  /-- The characters before, nearest first. -/
  before : Text
  rest : Text
  position : Nat
  deriving Repr

namespace Place

/-- The beginning of a text. -/
def start (t : Text) : Place := ⟨[], t, 0⟩

/-- One character on. -/
def step? (p : Place) : Option (Char × Place) :=
  match p.rest with
  | [] => none
  | c :: rest => some (c, ⟨c :: p.before, rest, p.position + 1⟩)

/-- Past a character that passes a test. -/
def pass? (p : Place) (test : CharTest) : Option Place :=
  match p.step? with
  | some (c, q) => if test.passes c then some q else none
  | none => none

/-- Whether the next character passes a test. -/
def isBefore (p : Place) (test : CharTest) : Bool := p.rest.head?.any (test.passes ·)

/-- Whether there are at least `n` characters left. -/
def hasRoom (p : Place) (n : Nat) : Bool := n = 0 || !(p.rest.drop (n - 1)).isEmpty

/-- `n` characters back. -/
def back? (p : Place) : Nat → Option Place
  | 0 => some p
  | n + 1 =>
    match p.before with
    | [] => none
    | c :: before => back? ⟨before, c :: p.rest, p.position - 1⟩ n

/-- Past a text that has to come next. -/
def skip? (folding : Folding) (p : Place) : Text → Option Place
  | [] => some p
  | a :: expected =>
    match p.rest with
    | [] => none
    | c :: rest =>
      if folding.small a.toNat = folding.small c.toNat then
        skip? folding ⟨c :: p.before, rest, p.position + 1⟩ expected
      else none

/-- Whether the characters on the two sides differ in being word characters.  In the empty text
there are no sides. -/
def sides (ascii : Bool) (p : Place) : Option Bool :=
  let isWord (t : Text) : Bool := match t with
    | [] => false
    | c :: _ => Category.word.has ascii c
  if p.before = [] ∧ p.rest = [] then none else some (isWord p.before != isWord p.rest)

/-- Whether the place satisfies a condition. -/
def satisfies (p : Place) : Anchor → Bool
  | .textStart => p.before = []
  | .lineStart => p.before = [] || p.before.head? = some '\n'
  | .finish => p.rest = [] || p.rest = ['\n']
  | .lineEnd => p.rest = [] || p.rest.head? = some '\n'
  | .textEnd => p.rest = []
  | .boundary ascii => p.sides ascii = some true
  | .noBoundary ascii => p.sides ascii = some false

/-- The places that are reached through characters that pass a test, the farthest first; `soFar` are
those before this one. -/
def through (test : CharTest) (p : Place) : (most : Option Nat) → (rest : Text) →
    (soFar : List Place) → List Place
  | some 0, _, soFar => p :: soFar
  | _, [], soFar => p :: soFar
  | most, c :: rest, soFar =>
    if test.passes c then
      through test ⟨c :: p.before, rest, p.position + 1⟩ (most.map (· - 1)) rest (p :: soFar)
    else p :: soFar

end Place

/-! ## Memory -/

/-- What is known on the way through a tree. -/
structure Memory where
  /-- Where each group began and ended, the first group first. -/
  marks : List (Option Place)
  /-- Where the last try came to. -/
  reached : Place

namespace Memory

/-- Sets a mark. -/
def mark (m : Memory) (i : Nat) (p : Place) : Memory :=
  if i < m.marks.length then { m with marks := m.marks.set i (some p) }
  else { m with marks := m.marks ++ List.replicate (i - m.marks.length) none ++ [some p] }

def markBegin (m : Memory) (group : Nat) (p : Place) : Memory := m.mark (2 * (group - 1)) p

def markEnd (m : Memory) (group : Nat) (p : Place) : Memory := m.mark (2 * (group - 1) + 1) p

/-- The two marks of a group. -/
def marksOf (m : Memory) (group : Nat) : Option (Place × Place) :=
  match m.marks[2 * (group - 1)]?, m.marks[2 * (group - 1) + 1]? with
  | some (some p), some (some q) => some (p, q)
  | _, _ => none

/-- Where a group that has matched begins and ends. -/
def span? (m : Memory) (group : Nat) : Option (Place × Place) :=
  (m.marksOf group).filter fun (p, q) => p.position ≤ q.position

/-- What a group has matched. -/
def matched? (m : Memory) (group : Nat) : Option Text :=
  (m.span? group).map fun (p, q) => p.rest.take (q.position - p.position)

/-- Whether some group ends before it begins. -/
def isTorn (m : Memory) : Bool :=
  (List.range (m.marks.length / 2)).any fun i =>
    (m.marksOf (i + 1)).any fun (p, q) => q.position < p.position

/-- The memory at a place from which something is tried. -/
def trying (m : Memory) (p : Place) : Memory := { m with reached := p }

/-- Takes back what a failed try has marked since `saved`. -/
def undo (now : Memory) (inside : Bool) (saved : Memory) : Memory :=
  { now with marks := if inside then saved.marks else now.marks.take saved.marks.length }

end Memory

/-- What a try comes to. -/
structure Try where
  succeeded : Bool
  memory : Memory

namespace Try

def failed (m : Memory) : Try := ⟨false, m⟩

/-- Tries something else if this has failed. -/
def orElse (t : Try) (other : Memory → Try) : Try := if t.succeeded then t else other t.memory

/-- Moves a failed try back to a place. -/
def backAt (t : Try) (p : Place) : Try := t.orElse fun m => failed (m.trying p)

end Try

/-- A way on from a place. -/
abbrev Continuation := Place → Memory → Try

/-- A tree that is matched: from a place, through the tree, and on. -/
abbrev Matcher := Place → Memory → Continuation → Try

/-- Nothing comes after. -/
def finished : Continuation := fun p m => ⟨true, m.trying p⟩

/-! ## Runs of characters -/

/-- A number of characters that pass a test. -/
structure Chars where
  least : Nat
  most : Option Nat
  test : CharTest
  /-- Whether all of this stands inside a repetition. -/
  inside : Bool

namespace Chars

/-- Tests that compare small letters are made one by one, which is what a try remembers. -/
def counted (r : Chars) (m : Memory) (p : Place) : Memory :=
  if r.test.isFolded then m.trying p else m

/-- Goes on from each of the places, except those that are not before `next`. -/
def tryEach (r : Chars) (next : Option CharTest) (k : Continuation) (saved : Memory) :
    List Place → Memory → Try
  | [], m => .failed m
  | p :: others, m =>
    if next.all (p.isBefore ·) then
      (k p (m.trying p)).orElse fun m => tryEach r next k saved others (m.undo r.inside saved)
    else tryEach r next k saved others m

/-- Passes as many characters as possible, and then fewer. -/
def greedy (r : Chars) (next : Option CharTest) (p : Place) (m : Memory) (k : Continuation) : Try :=
  let places := p.through r.test r.most p.rest []
  let m := r.counted (m.trying p) (places.headD p)
  let enough := places.take (places.length - r.least)
  if enough = [] then .failed m else tryEach r (next.filter (·.isFixed)) k m enough m

/-- Goes on, and then passes one character after the other; `left` is how many more may be. -/
def oneByOne (r : Chars) (k : Continuation) (saved : Memory) : (rest : Text) → (left : Option Nat) →
    Place → Memory → Try
  | rest, left, p, m =>
    (k p (m.trying p)).orElse fun m =>
      let m := (m.undo r.inside saved).trying p
      match rest, p.pass? r.test with
      | _ :: rest, some q =>
        let m := r.counted m q
        if left = some 0 then .failed m else oneByOne r k saved rest (left.map (· - 1)) q m
      | _, _ => .failed m

/-- Passes as few characters as possible, and then more. -/
def modest (r : Chars) (p : Place) (m : Memory) (k : Continuation) : Try :=
  let places := p.through r.test (some r.least) p.rest []
  let q := places.headD p
  let m := if r.least = 0 then m.trying p else r.counted (m.trying p) q
  if places.length ≤ r.least then .failed m
  else oneByOne r k m q.rest (r.most.map (· - r.least)) q m

/-- Passes as many characters as possible. -/
def possessive (r : Chars) (p : Place) (m : Memory) (k : Continuation) : Try :=
  let places := p.through r.test r.most p.rest []
  let q := places.headD p
  let m := r.counted (m.trying p) q
  if places.length ≤ r.least then .failed m else k q m

/-- Matches the characters; `next` is the test that comes directly after them. -/
def run (r : Chars) (greed : Greed) (next : Option CharTest) : Matcher := fun p m k =>
  if !p.hasRoom r.least then .failed m
  else match greed with
    | .greedy => r.greedy next p m k
    | .modest => r.modest p m k
    | .possessive => r.possessive p m k

end Chars

/-! ## Repetition -/

/-- A repetition: how often, and the matcher of its body. -/
structure Rounds where
  least : Nat
  most : Option Nat
  body : Matcher
  /-- Whether all of this stands inside another repetition. -/
  inside : Bool

namespace Rounds

/-- Whether a further round may begin after `count`, where `last` is the position at which the last
voluntary round began. -/
def mayGoOn (r : Rounds) (count : Nat) (last : Option Nat) (p : Place) : Bool :=
  r.most.all (count < ·) && last ≠ some p.position

/-- Tries more rounds before going on. -/
def greedy (r : Rounds) (k : Continuation) : (fuel count : Nat) → Option Nat → Continuation
  | 0, _, _, _, m => .failed m
  | fuel + 1, count, last, p, m =>
    if count < r.least then
      (r.body p (m.trying p) (greedy r k fuel (count + 1) last)).backAt p
    else
      let more :=
        if r.mayGoOn count last p then
          r.body p (m.trying p) (greedy r k fuel (count + 1) (some p.position))
        else .failed m
      more.orElse fun now => (k p ((now.undo true m).trying p)).backAt p

/-- Goes on before trying more rounds. -/
def modest (r : Rounds) (k : Continuation) : (fuel count : Nat) → Option Nat → Continuation
  | 0, _, _, _, m => .failed m
  | fuel + 1, count, last, p, m =>
    if count < r.least then
      (r.body p (m.trying p) (modest r k fuel (count + 1) last)).backAt p
    else
      (k p (m.trying p)).orElse fun now =>
        let m := (now.undo r.inside m).trying p
        if r.mayGoOn count last p then
          (r.body p m (modest r k fuel (count + 1) (some p.position))).backAt p
        else .failed m

/-- Goes through the rounds that are required, each in its first way. -/
def required (r : Rounds) : (count : Nat) → Memory → Try
  | 0, m => ⟨true, m⟩
  | count + 1, m =>
    let round := r.body m.reached m finished
    if round.succeeded then required r count round.memory else round

/-- Goes through as many more rounds as possible, each in its first way. -/
def further (r : Rounds) : (fuel count : Nat) → Option Nat → Memory → Memory
  | 0, _, _, m => m
  | fuel + 1, count, last, m =>
    if r.mayGoOn count last m.reached then
      let round := r.body m.reached m finished
      if round.succeeded then further r fuel (count + 1) (some m.reached.position) round.memory
      else round.memory.undo true m
    else m

/-- More rounds than can be needed from a place. -/
def bound (r : Rounds) (p : Place) : Nat := r.least + p.rest.length + 2

/-- Matches the repetition. -/
def run (r : Rounds) (greed : Greed) : Matcher := fun p m k =>
  match greed with
  | .greedy => r.greedy k (r.bound p) 0 none p m
  | .modest => r.modest k (r.bound p) 0 none p m
  | .possessive =>
    let first := r.required r.least (m.trying p)
    if first.succeeded then
      let m := r.further (r.bound p) r.least none first.memory
      k m.reached m
    else first.backAt p

end Rounds

/-! ## Trees -/

namespace Node

/-- Matches a tree.  `inside` says whether it stands inside a repetition, `next` is the test that
comes directly after it. -/
def run : Node → (inside : Bool) → (next : Option CharTest) → Matcher
  | .empty, _, _, p, m, k => k p m
  | .never, _, _, _, m, _ => .failed m
  | .char test, _, _, p, m, k =>
    match p.pass? test with
    | some q => k q m
    | none => .failed m
  | .seq a b, inside, next, p, m, k =>
    a.run inside (b.firstTest next) p m fun q m => b.run inside next q m k
  | .choice a others, inside, next, p, m, k =>
    -- An alternative whose first character is not there is passed over.
    let first :=
      if (a.firstTest none).all (p.isBefore ·) then a.run inside none p (m.trying p) k
      else .failed m
    first.orElse fun now => others.run inside next p (now.undo inside m) k
  | .scope body, inside, next, p, m, k => body.run inside next p m k
  | .group index body, inside, _, p, m, k =>
    body.run inside none p (m.markBegin index p) fun q m => k q (m.markEnd index q)
  | .sameAs index folding, _, _, p, m, k =>
    match (m.matched? index).bind (p.skip? folding ·) with
    | some q => k q m
    | none => .failed m
  | .anchor a, _, _, p, m, k => if p.satisfies a then k p m else .failed m
  | .ahead false body, inside, _, p, m, k =>
    let found := body.run inside none p (m.trying p) finished
    if found.succeeded then k p found.memory else found
  | .ahead true body, inside, _, p, m, k =>
    let found := body.run inside none p (m.trying p) finished
    if found.succeeded then .failed found.memory else k p (found.memory.undo inside m)
  | .behind false width body, inside, _, p, m, k =>
    match p.back? width with
    | none => .failed m
    | some q =>
      let found := body.run inside none q (m.trying q) finished
      if found.succeeded then k p found.memory else found
  | .behind true width body, inside, _, p, m, k =>
    match p.back? width with
    | none => k p m
    | some q =>
      let found := body.run inside none q (m.trying q) finished
      if found.succeeded then .failed found.memory else k p (found.memory.undo inside m)
  | .atomic body, inside, _, p, m, k =>
    let found := body.run inside none p (m.trying p) finished
    if found.succeeded then k found.memory.reached found.memory else found.backAt p
  | .chars greed least most test, inside, next, p, m, k =>
    Chars.run ⟨least, most, test, inside⟩ greed next p m k
  | .rounds greed least most body, inside, _, p, m, k =>
    Rounds.run ⟨least, most, body.run (inside || greed ≠ .possessive) none, inside⟩ greed p m k
  | .whether index yes no, inside, next, p, m, k =>
    if (m.span? index).isSome then
      -- What comes next is not known where the other part has to be passed over.
      yes.run inside (match no with | .empty => next | _ => none) p m k
    else no.run inside next p m k

end Node

/-! ## Searching -/

namespace Form

/-- Whether a match may begin at a place. -/
def mayBegin (f : Form) (p : Place) : Bool :=
  match f.beginning with
  | .roomy least => p.hasRoom (least - 1)
  | .everywhere => true
  | .before test => p.isBefore test

/-- The memory of a match at a place. -/
def matchAt? (f : Form) (p : Place) : Option Memory :=
  if f.mayBegin p then
    let found := f.root.run false none p ⟨[], p⟩ finished
    if found.succeeded then some found.memory else none
  else none

/-- The first match at or after a place. -/
def searchFrom? (f : Form) (before : Text) (position : Nat) : Text → Option Memory
  | [] => f.matchAt? ⟨before, [], position⟩
  | c :: rest =>
    (f.matchAt? ⟨before, c :: rest, position⟩).orElse fun _ =>
      f.searchFrom? (c :: before) (position + 1) rest

/-- The first match in a text. -/
def search? (f : Form) (t : Text) : Option Memory :=
  if f.least ≤ t.length then f.searchFrom? [] 0 t else none

end Form

end StyleBuild.Pattern
