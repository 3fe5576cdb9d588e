import RemoteClient.Proofs.Decode.Records
import RemoteClient.Proofs.Json.Skipping

/-!
Records that are written as objects. A text states the values of the fields in any order, each one
once or, where it may be left out, not at all, among any other members; it is read as the record. A
text in which a field is missing that must be given, or one is given twice, is refused, whatever
else is in it.
-/

namespace RemoteClient.Json

open Decode (Field Lawful Record bind_ok field_cases forall₂_mem missing_none)

/-! ## The texts -/

def Truth (b : Bool) (s : List Char) : Prop := s = (if b then "true" else "false").toList

section

variable {α : Type}

def Optionally (form : α → List Char → Prop) : Option α → List Char → Prop
  | none, s => s = "null".toList
  | some x, s => form x s

def ListOf (form : α → List Char → Prop) (xs : List α) (s : List Char) : Prop :=
  ∃ items, List.Forall₂ form xs items ∧ Listed items s

end

/-- A field of a record: its key, how its value is written, and whether it can be left out. -/
structure Entry where
  key : String
  form : List Char → Prop
  spare : Prop

structure Arranged (entries : List Entry) (members : List (String × List Char)) : Prop where
  once : ∀ e ∈ entries, (members.map (·.1)).count e.key ≤ 1
  stated : ∀ e ∈ entries, ∀ s, (e.key, s) ∈ members → e.form s
  spared : ∀ e ∈ entries, e.key ∉ members.map (·.1) → e.spare
  others : ∀ m ∈ members, m.1 ∉ entries.map (·.key) → AnyJson m.2

/-- An object with the entries as its members, in any order, and whatever else. -/
inductive States (entries : List Entry) : List Char → Prop
  | object {members : List (String × List Char)} {s : List Char}
      (arranged : Arranged entries members)
      (braced : Braced Quoted members s) : States entries s

/-- What makes an object useless for a record, all else apart: a field is missing that must be
given, a field is given twice, or the value of one is useless itself. -/
inductive Lacking (required known : List String) (useless : String → List Char → Prop)
    (members : List (String × List Char)) : Prop
  | missing {key : String} (needed : key ∈ required) (absent : key ∉ members.map (·.1))
  | repeated {key : String} (known : key ∈ known) (again : 2 ≤ (members.map (·.1)).count key)
  | within {key : String} {s : List Char} (member : (key, s) ∈ members) (fails : useless key s)

inductive Spoilt (required known : List String) (useless : String → List Char → Prop) :
    List Char → Prop
  | object {members : List (String × List Char)} {s : List Char}
      (values : ∀ m ∈ members, AnyJson m.2)
      (lacking : Lacking required known useless members) (braced : Braced Quoted members s) :
      Spoilt required known useless s

inductive SpoiltList (useless : List Char → Prop) : List Char → Prop
  | item {items : List (List Char)} {s item : List Char} (values : ∀ item ∈ items, AnyJson item)
      (member : item ∈ items) (fails : useless item) (listed : Listed items s) :
        SpoiltList useless s

/-! ## Reading members -/

section

variable {α S : Type} {name : String} {presence : Presence} {get : S → Option α} {put : α → S → S}
variable {decode : Source → Decoded α} {v : Source} {d t : S}

@[simp] theorem field_name : (field name presence get put decode).name = name := rfl

@[simp] theorem field_isSet : (field name presence get put decode).isSet d = (get d).isSome := rfl

@[simp] theorem field_optional :
    (field name presence get put decode).optional = false ↔ presence = .required := by
  cases presence <;> simp [field]

theorem field_read :
    (field name presence get put decode).read v d = .ok t ↔
      ∃ x, decode v = .ok x ∧ put x d = t := by
  cases decoded : decode v <;> simp [field, decoded, Except.map]

end

def tally {S : Type} (f : Field Source DecodeError S) (s : S) (members : List (String × Source)) :
    Nat :=
  (members.map (·.1)).count f.name + (f.isSet s).toNat

def keyed (members : List (String × Source)) : List (Source × Source) :=
  members.map fun m => (.text m.1, m.2)

section

variable {S : Type} {r : Record Source DecodeError S} {f g : Field Source DecodeError S}
    {start s t u : S}
variable {v : Source} {key : String} {members : List (String × Source)}

theorem tally_known (lawful : Lawful r start) (known : f ∈ r.fields) (unset : f.isSet s = false)
    (read : f.read v s = .ok t) (other : g ∈ r.fields) :
    tally g s ((f.name, v) :: members) = tally g t members := by
  have sets := lawful.sets f known read g other
  by_cases named : g.name = f.name
  · cases lawful.same known other named
    simp [tally, sets, unset]
  · simp [tally, sets, named, Ne.symm named]

theorem tally_unknown (lawful : Lawful r start) (unknown : r.field? key = none)
    (other : g ∈ r.fields) :
    tally g s ((key, v) :: members) = tally g s members := by
  simp [tally, (lawful.apart unknown other).symm]

theorem decodeMembers_nil : Source.decodeMembers r none s (keyed []) =
    match r.missing? s with
    | some name => .error (.mismatch (.missingField name))
    | none => .ok s := rfl

theorem decodeMembers_known (lawful : Lawful r start) (known : f ∈ r.fields) :
    Source.decodeMembers r none s
    (keyed ((f.name, v) :: members)) = if f.isSet s then .error (.mismatch (.duplicateField f.name))
      else f.read v s >>= fun t => Source.decodeMembers r none t (keyed members) := by
  simp only [keyed, List.map_cons, Source.decodeMembers, lawful.field known]
  split <;> rfl

theorem decodeMembers_unknown (unknown : r.field? key = none) : Source.decodeMembers r none s
    (keyed ((key, v) :: members)) =
      Source.closed () v.passOver >>= fun _ => Source.decodeMembers r none s (keyed members) := by
  simp only [keyed, List.map_cons, Source.decodeMembers, unknown]

/-- A record is read from members that give each field once at most, and once if it must be
given. -/
theorem decodeMembers_given (lawful : Lawful r start) {right : S → Prop} (holds : right s)
    (reads : ∀ f ∈ r.fields, ∀ v, (f.name, v) ∈ members → ∀ s, right s →
      ∃ t, f.read v s = .ok t ∧ right t) (once : ∀ f ∈ r.fields, tally f s members ≤ 1)
    (given : ∀ f ∈ r.fields, f.optional = false → 0 < tally f s members)
    (others : ∀ m ∈ members, r.field? m.1 = none → m.2.passOver = none) :
    ∃ t, Source.decodeMembers r none s (keyed members) = .ok t ∧ right t ∧
      ∀ f ∈ r.fields, (f.isSet t).toNat = tally f s members := by
  induction members generalizing s with
  | nil =>
      have complete : r.missing? s = none := by
        rw [missing_none]
        intro f known needed
        have set := given f known needed
        cases unset : f.isSet s <;> simp [tally, unset] at set ⊢
      exact ⟨s, by rw [decodeMembers_nil, complete], holds, by simp [tally]⟩
  | cons member members ih =>
      obtain ⟨key, v⟩ := member
      have after : ∀ m ∈ members, r.field? m.1 = none → m.2.passOver = none :=
        fun m inside => others m (List.mem_cons_of_mem _ inside)
      have later : ∀ f ∈ r.fields, ∀ v, (f.name, v) ∈ members → ∀ s, right s →
          ∃ t, f.read v s = .ok t ∧ right t :=
        fun f known v inside => reads f known v (List.mem_cons_of_mem _ inside)
      rcases field_cases r key with ⟨f, known, rfl⟩ | unknown
      · have unset : f.isSet s = false := by
          have single := once f known
          cases set : f.isSet s <;> simp [tally, set] at single ⊢
        obtain ⟨t, read, still⟩ := reads f known v List.mem_cons_self s holds
        have same (g) (other : g ∈ r.fields) :
            tally g s ((f.name, v) :: members) = tally g t members :=
          tally_known lawful known unset read other
        obtain ⟨u, decoded, right, set⟩ :=
          ih still later (fun g other => same g other ▸ once g other)
          (fun g other needed => same g other ▸ given g other needed) after
        refine ⟨u, ?_, right, fun g other => (set g other).trans (same g other).symm⟩
        rw [decodeMembers_known lawful known, unset, read]
        exact decoded
      · have same (g) (other : g ∈ r.fields) :
            tally g s ((key, v) :: members) = tally g s members :=
          tally_unknown lawful unknown other
        obtain ⟨u, decoded, right, set⟩ :=
          ih holds later (fun g other => same g other ▸ once g other)
          (fun g other needed => same g other ▸ given g other needed) after
        refine ⟨u, ?_, right, fun g other => (set g other).trans (same g other).symm⟩
        rw [decodeMembers_unknown unknown, others _ List.mem_cons_self unknown]
        exact decoded

/-- If a record is read, then each field was given once at most, and once if it must be, and its
value was read. -/
theorem decodeMembers_ok (lawful : Lawful r start)
    (decoded : Source.decodeMembers r none s (keyed members) = .ok u) (known : f ∈ r.fields) :
    (f.isSet u).toNat = tally f s members ∧
      (f.optional = false → 0 < tally f s members) ∧
      ∀ v, (f.name, v) ∈ members → ∃ s t, f.read v s = .ok t := by
  induction members generalizing s with
  | nil =>
      rw [decodeMembers_nil] at decoded
      cases missing : r.missing? s with
      | some name =>
          rw [missing] at decoded
          cases decoded
      | none =>
          rw [missing] at decoded
          cases decoded
          have set := missing_none.mp missing f known
          exact ⟨by simp [tally], fun needed => by simp [tally, set needed], by simp⟩
  | cons member members ih =>
      obtain ⟨key, v⟩ := member
      rcases field_cases r key with ⟨g, other, rfl⟩ | unknown
      · rw [decodeMembers_known lawful other] at decoded
        cases unset : g.isSet s with
        | true => simp [unset] at decoded
        | false =>
            rw [unset] at decoded
            obtain ⟨t, read, decoded⟩ := bind_ok decoded
            obtain ⟨set, needed, values⟩ := ih decoded
            rw [tally_known lawful other unset read known]
            refine ⟨set, needed, fun w member => ?_⟩
            rcases List.mem_cons.mp member with here | after
            · cases lawful.same other known (Prod.mk.inj here).1
              cases here
              exact ⟨s, t, read⟩
            · exact values w after
      · rw [decodeMembers_unknown unknown] at decoded
        obtain ⟨_, _, decoded⟩ := bind_ok decoded
        obtain ⟨set, needed, values⟩ := ih decoded
        rw [tally_unknown lawful unknown known]
        refine ⟨set, needed, fun w member => ?_⟩
        rcases List.mem_cons.mp member with here | after
        · exact absurd (Prod.mk.inj here).1 (lawful.apart unknown known)
        · exact values w after

end

/-! ## Reading texts -/

section

variable {α : Type} {decode : Source → Decoded α} {s : List Char} {x : α}

def Decodes (decode : Source → Decoded α) (s : List Char) (x : α) : Prop :=
  ∃ v, Reads s v ∧ decode v = .ok x

def Rejects (decode : Source → Decoded α) (s : List Char) : Prop :=
  ∃ v, Reads s v ∧ ∀ x, decode v ≠ .ok x

theorem Reads.unique {v w : Source} (reads : Reads s v) (again : Reads s w) : v = w := by
  have ends : Detached [] := fun c member => nomatch member
  have first := reads (2 * s.length + 1) [] (by omega) ends
  have second := again (2 * s.length + 1) [] (by omega) ends
  exact (Prod.mk.inj (first.symm.trans second)).1

theorem Rejects.bind {β : Type} {next : α → Decoded β} (rejects : Rejects decode s) :
    Rejects (fun v => decode v >>= next) s := by
  obtain ⟨v, reads, never⟩ := rejects
  refine ⟨v, reads, fun y done => ?_⟩
  obtain ⟨x, decoded, _⟩ := bind_ok done
  exact never x decoded

theorem Quoted.decodes {text : String} (quoted : Quoted text s) :
    Decodes Source.decodeText s text :=
  ⟨.text text, quoted.reads, rfl⟩

theorem Truth.decodes {b : Bool} (truth : Truth b s) : Decodes Source.decodeBool s b :=
  ⟨.bool b, truth ▸ reads_bool b, rfl⟩

theorem Optionally.decodes {text : Option String} (given : Optionally Quoted text s) :
    Decodes (Source.decodeOption Source.decodeText) s text := by
  cases text with
  | none =>
      have null : s = "null".toList := given
      exact ⟨.null, null ▸ reads_null, rfl⟩
  | some text => exact ⟨.text text, Quoted.reads given, rfl⟩

theorem ListOf.decodes {form : α → List Char → Prop} {xs : List α}
    (each : ∀ x ∈ xs, ∀ {s}, form x s → Decodes decode s x) (list : ListOf form xs s) :
    Decodes (Source.decodeList decode) s xs := by
  obtain ⟨items, formed, listed⟩ := list
  obtain ⟨vs, reads, decoded⟩ : ∃ vs, List.Forall₂ Reads items vs ∧
    Source.decodeItems decode none vs = .ok xs := by
    clear listed
    induction formed with
    | nil => exact ⟨[], .nil, rfl⟩
    | cons stated _ ih =>
        obtain ⟨v, reads, first⟩ := each _ List.mem_cons_self stated
        obtain ⟨vs, others, rest⟩ := ih fun y member => each y (List.mem_cons_of_mem _ member)
        refine ⟨v :: vs, .cons reads others, ?_⟩
        simp only [Source.decodeItems, first, rest, bind, Except.bind, pure, Except.pure]
  exact ⟨.list vs none, listed.reads reads, decoded⟩

theorem decodeItems_ok {vs : List Source} {xs : List α}
    (decoded : Source.decodeItems decode none vs = .ok xs) :
    ∀ v ∈ vs, ∃ x, decode v = .ok x := by
  induction vs generalizing xs with
  | nil => simp
  | cons v vs ih =>
      obtain ⟨first, here, decoded⟩ := bind_ok decoded
      obtain ⟨others, rest, _⟩ := bind_ok decoded
      intro w member
      rcases List.mem_cons.mp member with rfl | after
      · exact ⟨first, here⟩
      · exact ih rest w after

theorem SpoiltList.rejects {useless : List Char → Prop} (each : ∀ {s}, useless s → Rejects decode s)
    (spoilt : SpoiltList useless s) : Rejects (Source.decodeList decode) s := by
  cases spoilt with
  | item values member fails listed =>
      obtain ⟨vs, items, _⟩ := items_pass fun item inside => (values item inside).reads
      refine ⟨_, listed.reads items, fun xs decoded => ?_⟩
      obtain ⟨w, inside, reads⟩ := forall₂_mem items member
      obtain ⟨v, again, never⟩ := each fails
      cases reads.unique again
      obtain ⟨x, ok⟩ := decodeItems_ok decoded w inside
      exact never x ok

end

section

variable {S : Type} {r : Record Source DecodeError S} {right : S → Prop} {start : S} {s : List Char}
variable {P : String → Source → Prop} {members : List (String × List Char)}

def Sourced (P : String → Source → Prop) (members : List (String × List Char))
    (vs : List (String × Source)) : Prop :=
  List.Forall₂ (fun m v => m.1 = v.1 ∧ Reads m.2 v.2 ∧ P v.1 v.2) members vs

theorem members_sourced (each : ∀ m ∈ members, ∃ v, Reads m.2 v ∧ P m.1 v) :
    ∃ vs, Sourced P members vs := by
  induction members with
  | nil => exact ⟨[], .nil⟩
  | cons member members ih =>
      obtain ⟨v, reads, holds⟩ := each member List.mem_cons_self
      obtain ⟨vs, others⟩ := ih fun m inside => each m (List.mem_cons_of_mem _ inside)
      exact ⟨(member.1, v) :: vs, .cons ⟨rfl, reads, holds⟩ others⟩

theorem Sourced.keys {vs : List (String × Source)} (sourced : Sourced P members vs) :
    vs.map (·.1) = members.map (·.1) := by
  induction sourced with
  | nil => rfl
  | cons first _ ih => rw [List.map_cons, List.map_cons, ih, first.1]

theorem Sourced.reads {vs : List (String × Source)} (sourced : Sourced P members vs)
    (braced : Braced Quoted members s) : Reads s (.object (keyed vs) none) := by
  refine braced.reads ?_
  rw [keyed, List.forall₂_map_right_iff]
  refine sourced.imp fun m v ⟨same, reads, _⟩ => ⟨fun named => ?_, reads⟩
  rw [same] at named
  exact named.readsKey

theorem Sourced.holds {vs : List (String × Source)} (sourced : Sourced P members vs) :
    ∀ v ∈ vs, P v.1 v.2 := by
  intro v member
  obtain ⟨_, _, _, _, holds⟩ := forall₂_mem sourced.flip member
  exact holds

/-- A field goes with an entry: it can be left out only where the entry needs it not, and whatever
states the entry is read as the field. -/
structure Suits (right : S → Prop) (f : Field Source DecodeError S) (e : Entry) : Prop where
  key : f.name = e.key
  needed : f.optional = false → ¬ e.spare
  reads : ∀ {s}, e.form s → ∃ v, Reads s v ∧ ∀ d, right d → ∃ t, f.read v d = .ok t ∧ right t

theorem suits_keys {fields : List (Field Source DecodeError S)} {entries : List Entry}
    (suits : List.Forall₂ (Suits right) fields entries) :
    fields.map (·.name) = entries.map (·.key) := by
  induction suits with
  | nil => rfl
  | cons first _ ih => rw [List.map_cons, List.map_cons, ih, first.key]

section

variable {α : Type} {name : String} {presence : Presence} {get : S → Option α} {put : α → S → S}
variable {decode : Source → Decoded α} {x : α}

theorem field_suits {form : List Char → Prop} {spare : Prop}
    (decodes : ∀ {s}, form s → Decodes decode s x) (keeps : ∀ d, right d → right (put x d))
    (needed : presence = .required → ¬ spare) :
    Suits right (field name presence get put decode) ⟨name, form, spare⟩ where
  key := rfl
  needed required := needed (field_optional.mp required)
  reads formed := by
    obtain ⟨v, reads, decoded⟩ := decodes formed
    exact ⟨v, reads, fun d holds => ⟨put x d, field_read.mpr ⟨x, decoded, rfl⟩, keeps d holds⟩⟩

theorem Rejects.field (rejects : Rejects decode s) (d : S) :
    Rejects ((field name presence get put decode).read · d) s := by
  obtain ⟨v, reads, never⟩ := rejects
  refine ⟨v, reads, fun t read => ?_⟩
  obtain ⟨x, decoded, _⟩ := field_read.mp read
  exact never x decoded

end

structure Goes (r : Record Source DecodeError S) (right : S → Prop) (key : String) (v : Source) :
    Prop where
  taken : ∀ f ∈ r.fields, f.name = key → ∀ d, right d → ∃ t, f.read v d = .ok t ∧ right t
  passed : r.field? key = none → v.passOver = none

theorem Arranged.sourced {entries : List Entry} (lawful : Lawful r start)
    (suits : List.Forall₂ (Suits right) r.fields entries) (arranged : Arranged entries members) :
    ∃ vs, Sourced (Goes r right) members vs := by
  refine members_sourced fun m member => ?_
  rcases field_cases r m.1 with ⟨f, known, named⟩ | unknown
  · obtain ⟨e, inside, suit⟩ := forall₂_mem suits known
    have stated : (e.key, m.2) ∈ members := by
      rw [← suit.key, named]
      exact member
    obtain ⟨v, reads, read⟩ := suit.reads (arranged.stated e inside m.2 stated)
    refine ⟨v, reads, fun g other same => ?_, fun unknown => ?_⟩
    · cases lawful.same known other (same.trans named.symm)
      exact read
    · exact absurd named (lawful.apart unknown known)
  · have foreign : m.1 ∉ entries.map (·.key) := by
      rw [← suits_keys suits]
      intro inside
      obtain ⟨f, known, named⟩ := List.mem_map.mp inside
      exact lawful.apart unknown known named
    obtain ⟨v, reads, passes⟩ := (arranged.others m member foreign).reads
    refine ⟨v, reads, fun g other same => ?_, fun _ => passes⟩
    exact absurd same (lawful.apart unknown other)

theorem Sourced.tally {vs : List (String × Source)} (sourced : Sourced P members vs)
    (lawful : Lawful r start) {f : Field Source DecodeError S} (known : f ∈ r.fields) :
    tally f start vs = (members.map (·.1)).count f.name := by
  simp [Json.tally, lawful.unset f known, sourced.keys]

/-- An object that states the entries is read as the record, and only what it need not state is left
unset. -/
theorem States.decodes {entries : List Entry} (lawful : Lawful r start) (holds : right start)
    (suits : List.Forall₂ (Suits right) r.fields entries)
    (states : States entries s) : ∃ v t, Reads s v ∧ v.decodeRecord r start = .ok t ∧ right t ∧
      List.Forall₂ (fun f e => f.isSet t = false → e.spare) r.fields entries := by
  cases states with
  | @object members _ arranged braced =>
      obtain ⟨vs, sourced⟩ := arranged.sourced lawful suits
      have once : ∀ f ∈ r.fields, tally f start vs ≤ 1 := by
        intro f known
        obtain ⟨e, inside, suit⟩ := forall₂_mem suits known
        rw [sourced.tally lawful known, suit.key]
        exact arranged.once e inside
      have given : ∀ f ∈ r.fields, f.optional = false → 0 < tally f start vs := by
        intro f known needed
        obtain ⟨e, inside, suit⟩ := forall₂_mem suits known
        rw [sourced.tally lawful known, suit.key, List.count_pos_iff]
        by_contra absent
        exact suit.needed needed (arranged.spared e inside absent)
      obtain ⟨t, decoded, right, set⟩ := decodeMembers_given lawful holds
        (fun f known v member => (sourced.holds _ member).taken f known rfl) once given
        fun m member => (sourced.holds m member).passed
      refine ⟨_, t, sourced.reads braced, decoded, right, ?_⟩
      rw [List.forall₂_iff_zip] at suits ⊢
      refine ⟨suits.1, fun {f e} both unset => ?_⟩
      obtain ⟨known, inside⟩ := List.of_mem_zip both
      have zero := set f known
      rw [unset, sourced.tally lawful known, (suits.2 both).key] at zero
      exact arranged.spared e inside (List.count_eq_zero.mp zero.symm)

theorem Spoilt.rejects {required known : List String} {useless : String → List Char → Prop}
    (lawful : Lawful r start)
    (needed : ∀ key ∈ required, ∃ f ∈ r.fields, f.name = key ∧ f.optional = false)
    (named : ∀ key ∈ known, ∃ f ∈ r.fields, f.name = key)
    (within : ∀ {key s}, useless key s → ∃ f ∈ r.fields, f.name = key ∧ ∀ d, Rejects (f.read · d) s)
    (spoilt : Spoilt required known useless s) :
    Rejects (Source.decodeRecord r start) s := by
  cases spoilt with
  | @object members _ values lacking braced =>
      obtain ⟨vs, sourced⟩ := members_sourced (P := fun _ _ => True) fun m member => by
        obtain ⟨v, reads, _⟩ := (values m member).reads
        exact ⟨v, reads, trivial⟩
      refine ⟨_, sourced.reads braced, fun u decoded => ?_⟩
      have decoded : Source.decodeMembers r none start (keyed vs) = .ok u := decoded
      cases lacking with
      | missing isNeeded absent =>
          obtain ⟨f, inside, rfl, optional⟩ := needed _ isNeeded
          have given := (decodeMembers_ok lawful decoded inside).2.1 optional
          rw [sourced.tally lawful inside, List.count_pos_iff] at given
          exact absent given
      | repeated isKnown again =>
          obtain ⟨f, inside, rfl⟩ := named _ isKnown
          have single := (decodeMembers_ok lawful decoded inside).1
          rw [sourced.tally lawful inside] at single
          have small := Bool.toNat_le (f.isSet u)
          omega
      | @within key text member fails =>
          obtain ⟨f, inside, rfl, rejects⟩ := within fails
          obtain ⟨w, there, same, read, _⟩ := forall₂_mem sourced member
          have here : (f.name, w.2) ∈ vs := by
            rw [show f.name = w.1 from same]
            exact there
          obtain ⟨d, t, ok⟩ := (decodeMembers_ok lawful decoded inside).2.2 w.2 here
          obtain ⟨v, again, never⟩ := rejects d
          cases read.unique again
          exact never t ok

end

end RemoteClient.Json
