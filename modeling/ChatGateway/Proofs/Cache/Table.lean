import ChatGateway.Cache.Messages
import Mathlib.Data.Finmap

/-!
What can be asked of the recent messages, and what a plain finite map from keys to messages answers.
A question with several answers in no order is answered by a list of them, each once.
-/

namespace ChatGateway.Cache

inductive Op where
  | put (m : Message)
  | get (id : String)
  | startingWith (beginning : String)
  | since (t : Instant)
  | ordered
  | oldest (now : Instant)
  | cleanUp (max : Nat)
  | delete (id : String)
  | clear

inductive Answer where
  | changed (b : Bool)
  | message (m : Option Message)
  | messages (ms : List Message)
  | evicted (n : Nat)
  | done

abbrev Table := Finmap fun _ : String => Message

namespace Table

/-- The messages of a table. -/
def live (t : Table) : Finset Message := t.keys.biUnion fun k => (t.lookup k).toFinset

theorem mem_live {t : Table} {m : Message} : m ∈ t.live ↔ ∃ k, t.lookup k = some m := by
  simp only [live, Finset.mem_biUnion, Finmap.mem_keys, Option.mem_toFinset, Option.mem_def]
  constructor
  · intro given
    obtain ⟨k, _, found⟩ := given
    exact ⟨k, found⟩
  · intro given
    obtain ⟨k, found⟩ := given
    exact ⟨k, Finmap.mem_of_lookup_eq_some found, found⟩

/-- The entries whose messages are wanted. -/
def keep (t : Table) (wanted : Message → Bool) : Table :=
  Finmap.keysLookupEquiv.symm
    ⟨(t.keys.filter fun k => ((t.lookup k).filter wanted).isSome,
        fun k => (t.lookup k).filter wanted), by
      intro k
      simp only [Finset.mem_filter, Finmap.mem_keys, ← Finmap.lookup_isSome]
      constructor
      · intro kept
        refine ⟨?_, kept⟩
        cases found : t.lookup k with
        | none => simp [found] at kept
        | some m => rfl
      · exact fun both => both.2⟩

theorem lookup_keep (t : Table) (wanted : Message → Bool) (k : String) :
    (t.keep wanted).lookup k = (t.lookup k).filter wanted := by
  simp [keep]

/-- The messages that come after `m`. -/
def after (t : Table) (m : Message) : Finset Message := t.live.filter fun other => m.earlier other

/-- A message goes once `max` others come after it. No bound is set by 0. -/
def cleanUp (t : Table) (max : Nat) : Table :=
  if max = 0 then t else t.keep fun m => (t.after m).card < max

def step (t : Table) : Op → Table
  | .put m => t.insert m.key m
  | .cleanUp max => t.cleanUp max
  | .delete id => t.erase (Message.keyOf id)
  | .clear => ∅
  | .get _ | .startingWith _ | .since _ | .ordered | .oldest _ => t

def run (t : Table) (ops : List Op) : Table := ops.foldl step t

/-- A list of the messages of a set, each once. -/
def Lists (ms : List Message) (s : Finset Message) : Prop := (ms : Multiset Message) = s.val

/-- The first message of a set, if it has any. -/
def IsEarliest (s : Finset Message) : Option Message → Prop
  | none => s = ∅
  | some m => m ∈ s ∧ ∀ other ∈ s, other ≠ m → m.earlier other = true

/-- The answers of a table. -/
def Answers (t : Table) : Op → Answer → Prop
  | .put m, .changed b => b = true ↔ ∀ old, t.lookup m.key = some old → old.content ≠ m.content
  | .get id, .message found => found = t.lookup (Message.keyOf id)
  | .startingWith beginning, .messages ms =>
    Lists ms (t.live.filter fun m => Text.beginsWith m.key (Message.keyOf beginning))
  | .since i, .messages ms => Lists ms (t.live.filter fun m => i.before m.timestamp)
  | .ordered, .messages ms => Lists ms t.live ∧ ms.Pairwise fun a b => a.earlier b = true
  | .oldest now, .message found =>
    IsEarliest (t.live.filter fun m => m.hasTimestamp && m.timestamp.before now) found
  | .cleanUp max, .evicted n => t.keys.card = (t.cleanUp max).keys.card + n
  | .delete id, .message found => found = t.lookup (Message.keyOf id)
  | .clear, .done => True
  | _, _ => False

end Table

namespace Messages

/-- One question put to the cache. -/
def step (c : Messages) : Op → Messages × Answer
  | .put m => let (c, b) := c.put m; (c, .changed b)
  | .get id => (c, .message (c.get? id))
  | .startingWith beginning => (c, .messages (c.startingWith beginning))
  | .since t => (c, .messages (c.since t))
  | .ordered => (c, .messages c.ordered)
  | .oldest now => (c, .message (c.oldest? now))
  | .cleanUp max => let (c, n) := c.cleanUp max; (c, .evicted n)
  | .delete id => let (c, m) := c.delete id; (c, .message m)
  | .clear => (c.clear, .done)

def run (c : Messages) (ops : List Op) : Messages := ops.foldl (fun c op => (c.step op).1) c

end Messages

end ChatGateway.Cache
