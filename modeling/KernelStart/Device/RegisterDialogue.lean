import KernelStart.Device.Mmio
import KernelStart.Program.Conversation

/-!
# Dialogues with a device

A conversation over memory-mapped registers is all that a driver learns of its device and all
that it tells it.  Three things can be seen in it without knowing the driver:

* `answersAt`: the words that one register was read as, in order;
* `updates`: the writes in order, each with the word that its register was last read as;
* `afterFirstWrite`: what was said once the device had been told something.

Drivers change registers by reading them and writing what becomes of the word (`modify`).  Such
a change is one update, made from the word that was read (`updatesAfter_changeOf`), and reads
are none (`updatesAfter_readsOf`), so that the updates of a dialogue can be counted off its parts
(`updatesAfter_append`).
-/

set_option autoImplicit false

namespace KernelStart.Mmio

open Program

/-! ## Exchanges -/

/-- The read of a register with its answer. -/
def readOf (register : UInt64) (word : UInt32) : Exchange Mmio := ⟨.read register, word⟩

theorem readOf_inj {first second : UInt64} {word other : UInt32}
    (same : readOf first word = readOf second other) : first = second ∧ other = word := by
  cases same
  exact ⟨rfl, rfl⟩

/-- The write of a register. -/
def writeOf (register : UInt64) (value : UInt32) : Exchange Mmio := ⟨.write register value, ()⟩

/-- Reads of one register, with the words that they were answered. -/
def readsOf (register : UInt64) (words : List UInt32) : Conversation Mmio :=
  words.map (readOf register)

/-- Reads a register and writes what is made of the word. -/
def modify (register : UInt64) (change : UInt32 → UInt32) : Program Mmio Unit :=
  (read register).bind fun word => write register (change word)

/-- A change of a register that was read as a word. -/
def changeOf (register : UInt64) (change : UInt32 → UInt32) (word : UInt32) : Conversation Mmio :=
  [readOf register word, writeOf register (change word)]

theorem reaches_read {register : UInt64} {conversation : Conversation Mmio} {word : UInt32}
    (reaches : Reaches (read register) conversation (.done word)) :
    conversation = readsOf register [word] :=
  reaches.of_request_done

theorem reaches_modify {register : UInt64} {change : UInt32 → UInt32}
    {conversation : Conversation Mmio} {result : Unit}
    (reaches : Reaches (modify register change) conversation (.done result)) :
    ∃ word, conversation = changeOf register change word := by
  obtain ⟨early, late, word, rfl, asked, written⟩ := reaches.of_bind_done
  rw [asked.of_request_done, written.of_request_done]
  exact ⟨word, rfl⟩

/-! ## What registers were read as -/

/-- The answer to a read of the register. -/
def answerAt? (register : UInt64) : Exchange Mmio → Option UInt32
  | ⟨.read address, answer⟩ => if address = register then some answer else none
  | ⟨.write _ _, _⟩ => none

/-- What a register was read as, in order. -/
def answersAt (register : UInt64) (conversation : Conversation Mmio) : List UInt32 :=
  conversation.filterMap (answerAt? register)

variable {register other : UInt64}

@[simp] theorem answersAt_append (first second : Conversation Mmio) :
    answersAt register (first ++ second) = answersAt register first ++ answersAt register second :=
  List.filterMap_append

@[simp] theorem answersAt_readsOf (words : List UInt32) :
    answersAt register (readsOf register words) = words := by
  rw [answersAt, readsOf, List.filterMap_map]
  exact (congrArg (List.filterMap · words) (funext fun _ => if_pos rfl)).trans List.filterMap_some

theorem answersAt_readsOf_of_ne (different : other ≠ register) (words : List UInt32) :
    answersAt register (readsOf other words) = [] := by
  rw [answersAt, readsOf, List.filterMap_map, List.filterMap_eq_nil_iff]
  exact fun _ _ => if_neg different

theorem getLast?_answersAt_concat (early : Conversation Mmio) (word : UInt32) :
    (answersAt register (early ++ [readOf register word])).getLast? = some word := by
  rw [answersAt_append, show answersAt register [readOf register word] = [word] from
    answersAt_readsOf [word], List.getLast?_concat]

/-! ## What was written -/

/-- A write, with the word that its register was last read as. -/
structure Update where
  register : UInt64
  lastRead : Option UInt32
  value : UInt32

/-- The update writes to a register what a function makes of the word that was last read there. -/
def Update.Makes (update : Update) (step : UInt64 × (UInt32 → UInt32)) : Prop :=
  update.register = step.1 ∧ update.lastRead.map step.2 = some update.value

/-- The update that an exchange is, after others. -/
def update? (early : Conversation Mmio) : Exchange Mmio → Option Update
  | ⟨.read _, _⟩ => none
  | ⟨.write address value, _⟩ => some ⟨address, (answersAt address early).getLast?, value⟩

/-- The updates of a conversation that follows another. -/
def updatesAfter (early : Conversation Mmio) : Conversation Mmio → List Update
  | [] => []
  | exchange :: later =>
    (update? early exchange).toList ++ updatesAfter (early ++ [exchange]) later

/-- The updates of a conversation, in order. -/
def updates (conversation : Conversation Mmio) : List Update := updatesAfter [] conversation

theorem updatesAfter_append (early first second : Conversation Mmio) :
    updatesAfter early (first ++ second) =
      updatesAfter early first ++ updatesAfter (early ++ first) second := by
  induction first generalizing early with
  | nil => rw [List.append_nil]; rfl
  | cons exchange first ih =>
    rw [List.cons_append, updatesAfter, updatesAfter, ih, List.append_assoc, List.append_assoc]
    rfl

@[simp] theorem updatesAfter_readsOf (early : Conversation Mmio) (words : List UInt32) :
    updatesAfter early (readsOf register words) = [] := by
  induction words generalizing early with
  | nil => rfl
  | cons word words ih => exact ih (early ++ [readOf register word])

/-- A change is one update, made from the word that was read for it. -/
@[simp] theorem updatesAfter_changeOf (early : Conversation Mmio) (change : UInt32 → UInt32)
    (word : UInt32) :
    updatesAfter early (changeOf register change word) =
      [⟨register, some word, change word⟩] := by
  rw [← getLast?_answersAt_concat early word]
  rfl

/-! ## Before and after the first write -/

def isRead : Exchange Mmio → Bool
  | ⟨.read _, _⟩ => true
  | ⟨.write _ _, _⟩ => false

/-- What was said after the device had been told something. -/
def afterFirstWrite (conversation : Conversation Mmio) : Conversation Mmio :=
  (conversation.dropWhile isRead).tail

theorem afterFirstWrite_readsOf (words : List UInt32) :
    afterFirstWrite (readsOf register words) = [] := by
  induction words with
  | nil => rfl
  | cons _ _ ih => exact ih

theorem afterFirstWrite_changeOf (words : List UInt32) (change : UInt32 → UInt32) (word : UInt32)
    (later : Conversation Mmio) :
    afterFirstWrite (readsOf other words ++ (changeOf register change word ++ later)) = later := by
  induction words with
  | nil => rfl
  | cons _ _ ih => exact ih

end KernelStart.Mmio
