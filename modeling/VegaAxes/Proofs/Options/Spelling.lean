import Mathlib.Data.List.Find
import Mathlib.Data.List.Forall2
import Mathlib.Data.List.Nodup
import Mathlib.Data.List.Pairwise
import VegaAxes.Options.Schema
import VegaAxes.Proofs.Json.Fields
import VegaAxes.Proofs.Options.Intake

/-!
# Both spellings of a key read the same

A field of an option object may be given under either of its key's names. `Form` says where in a
value the option objects stand and which keys these have, and a value is `Respelled` if some of the
fields in them go under their other name. `read_follows`: where no field is given under both, an
axis description is read as before, with problems of the same kinds.
-/

namespace VegaAxes

-- ---------------------------------------------------------------------------
-- Checks that agree
-- ---------------------------------------------------------------------------

namespace Checked

/-- Both pass with the same value, or both fail with the same kinds of problems, in this order. -/
inductive Agree : Checked α → Checked α → Prop where
  | ok (a : α) : Agree (.ok a) (.ok a)
  | bad {ps qs : List Problem} (kinds : ps.map Problem.kind = qs.map Problem.kind) :
    Agree (.bad ps) (.bad qs)

namespace Agree

variable {f g : Checked (α → β)} {x y : Checked α}

theorem refl : ∀ x : Checked α, Agree x x
  | .ok a => .ok a
  | .bad _ => .bad rfl

theorem bad_append {ps ps' qs qs' : List Problem}
    (kinds : ps.map Problem.kind = qs.map Problem.kind)
    (kinds' : ps'.map Problem.kind = qs'.map Problem.kind) :
    Agree (.bad (ps ++ ps') : Checked α) (.bad (qs ++ qs')) := by
  refine .bad ?_
  rw [List.map_append, List.map_append, kinds, kinds']

theorem fail (kind : ProblemKind) (v w : Json) :
    Agree (Checked.fail kind v : Checked α) (.fail kind w) :=
  .bad rfl

theorem map (h : Agree x y) (f : α → β) : Agree (x.map f) (y.map f) := by
  cases h with
  | ok a => exact .ok (f a)
  | bad kinds => exact .bad kinds

theorem seq (hf : Agree f g) (h : Agree x y) : Agree (f.seq x) (g.seq y) := by
  cases hf with
  | ok f =>
    cases h with
    | ok a => exact .ok (f a)
    | bad kinds => exact .bad kinds
  | bad kinds =>
    cases h with
    | ok a => exact .bad kinds
    | bad kinds' => exact bad_append kinds kinds'

theorem kinds_under (part : String) (ps : List Problem) :
    (ps.map (Problem.under part)).map Problem.kind = ps.map Problem.kind := by
  rw [List.map_map]
  rfl

theorem under (h : Agree x y) (part part' : String) : Agree (x.under part) (y.under part') := by
  cases h with
  | ok a => exact .ok a
  | bad kinds =>
    refine .bad ?_
    rw [kinds_under, kinds_under, kinds]

theorem items {r : α → Checked β} {as bs : List α}
    (h : List.Forall₂ (fun a b => Agree (r a) (r b)) as bs)
    (start : Nat) : Agree (Checked.items r start as) (Checked.items r start bs) := by
  induction h generalizing start with
  | nil => exact .ok []
  | cons h _ ih => exact ((h.under _ _).map List.cons).seq (ih (start + 1))

theorem firstOf {members : List (String × Reader α)} {v w : Json}
    (h : ∀ member ∈ members, Agree (member.2 v) (member.2 w)) :
    Agree (Reader.firstOf members v) (Reader.firstOf members w) := by
  induction members with
  | nil => exact .bad rfl
  | cons member members ih =>
    obtain ⟨name, r⟩ := member
    have hr : Agree (r v) (r w) := h (name, r) List.mem_cons_self
    have hmembers := ih fun member hmem => h member (List.mem_cons_of_mem _ hmem)
    rw [Reader.firstOf, Reader.firstOf]
    -- the others are tried only where the first one fails
    generalize r v = x, r w = y at hr ⊢
    generalize Reader.firstOf members v = xs, Reader.firstOf members w = ys at hmembers ⊢
    cases hr with
    | ok a => exact .ok a
    | bad kinds =>
      cases hmembers with
      | ok a => exact .ok a
      | bad kinds' =>
        refine bad_append ?_ kinds'
        rw [kinds_under, kinds_under, kinds]

end Agree

end Checked

-- ---------------------------------------------------------------------------
-- The names of a key
-- ---------------------------------------------------------------------------

namespace FieldKey

variable {key : FieldKey} {keys : List FieldKey} {k : String} {chosen : String → Bool}

def Names (key : FieldKey) (k : String) : Prop :=
  k = key.main ∨ k = key.other

instance (key : FieldKey) (k : String) : Decidable (key.Names k) :=
  inferInstanceAs (Decidable (_ ∨ _))

def otherName (key : FieldKey) (k : String) : String :=
  if k = key.main then key.other else key.main

/-- The key's other name in place of a chosen one; what names no key stays. -/
def respell (keys : List FieldKey) (chosen : String → Bool) (k : String) : String :=
  match keys.find? (·.Names k) with
  | some key => if chosen k then key.otherName k else k
  | none => k

def names (key : FieldKey) : List String :=
  if key.main = key.other then [key.main] else [key.main, key.other]

/-- No two keys share a name, and every name is a text of characters. -/
def Apart (keys : List FieldKey) : Prop :=
  (keys.flatMap names).Nodup ∧ ∀ name ∈ keys.flatMap names, Text.isWhole name = true

instance (keys : List FieldKey) : Decidable (Apart keys) :=
  inferInstanceAs (Decidable (_ ∧ _))

theorem mem_names : k ∈ key.names ↔ key.Names k := by
  unfold names Names
  split
  · next h => rw [List.mem_singleton, ← h, or_self]
  · rw [List.mem_pair]

theorem names_otherName (key : FieldKey) (k : String) : key.Names (key.otherName k) := by
  rw [otherName]
  split
  · exact .inr rfl
  · exact .inl rfl

theorem isWhole_of_names (hkeys : Apart keys) (hkey : key ∈ keys) (h : key.Names k) :
    Text.isWhole k = true :=
  hkeys.2 k (List.mem_flatMap.mpr ⟨key, hkey, mem_names.mpr h⟩)

theorem eq_of_names (hkeys : Apart keys) {key' : FieldKey} (hkey : key ∈ keys) (hkey' : key' ∈ keys)
    (h : key.Names k) (h' : key'.Names k) : key' = key := by
  by_contra hne
  obtain ⟨-, hdisjoint⟩ := List.nodup_flatMap.mp hkeys.1
  have : Std.Symm (Function.onFun List.Disjoint names) := ⟨fun _ _ => List.disjoint_symm⟩
  exact hdisjoint.forall hkey' hkey hne (mem_names.mpr h') (mem_names.mpr h)

theorem respell_cases (keys : List FieldKey) (chosen : String → Bool) (k : String) :
    respell keys chosen k = k ∨
      ∃ key ∈ keys, key.Names k ∧ respell keys chosen k = key.otherName k := by
  rw [respell]
  split
  · next key hfind =>
    split
    · exact .inr ⟨key, List.mem_of_find?_eq_some hfind, by simpa using List.find?_some hfind, rfl⟩
    · exact .inl rfl
  · exact .inl rfl

theorem names_respell (hkeys : Apart keys) (hkey : key ∈ keys) :
    key.Names (respell keys chosen k) ↔ key.Names k := by
  rcases respell_cases keys chosen k with h | ⟨key', hkey', hnames, h⟩
  · rw [h]
  · rw [h]
    have hother := names_otherName key' k
    constructor
    · intro hnamed
      exact eq_of_names hkeys hkey' hkey hother hnamed ▸ hnames
    · intro hnamed
      exact eq_of_names hkeys hkey' hkey hnames hnamed ▸ hother

theorem isWhole_respell (hkeys : Apart keys) :
    Text.isWhole (respell keys chosen k) = Text.isWhole k := by
  rcases respell_cases keys chosen k with h | ⟨key, hkey, hnames, h⟩
  · rw [h]
  · rw [h, isWhole_of_names hkeys hkey hnames, isWhole_of_names hkeys hkey (names_otherName key k)]

end FieldKey

namespace Fields

variable {keys : List FieldKey} {key : FieldKey} {fs : Fields} {k l : String}

def NamedOnce (keys : List FieldKey) (fs : Fields) : Prop :=
  ∀ key ∈ keys, key.main = key.other ∨ key.main ∉ fs.keys ∨ key.other ∉ fs.keys

instance (keys : List FieldKey) (fs : Fields) : Decidable (NamedOnce keys fs) :=
  inferInstanceAs (Decidable (∀ key ∈ keys, _ ∨ _))

theorem NamedOnce.unique (h : NamedOnce keys fs) (hkey : key ∈ keys) (hk : k ∈ fs.keys)
    (hl : l ∈ fs.keys) (hnames : key.Names k) (hnames' : key.Names l) : k = l := by
  rcases hnames with rfl | rfl
  · rcases hnames' with rfl | rfl
    · rfl
    · rcases h key hkey with hsame | hmain | hother
      · exact hsame
      · exact absurd hk hmain
      · exact absurd hl hother
  · rcases hnames' with rfl | rfl
    · rcases h key hkey with hsame | hmain | hother
      · exact hsame.symm
      · exact absurd hl hmain
      · exact absurd hk hother
    · rfl

theorem find?_key (fs : Fields) (k : String) : fs.find? (·.1 = k) = (fs.get? k).map (k, ·) := by
  induction fs with
  | nil => rfl
  | cons field fs ih =>
    obtain ⟨l, v⟩ := field
    rw [get?_cons, List.find?_cons, ih]
    by_cases h : l = k
    · simp [h]
    · simp [h, Ne.symm h]

theorem NamedOnce.find?_eq (h : NamedOnce keys fs) (hkey : key ∈ keys) :
    key.find? fs = fs.find? (key.Names ·.1) := by
  have hnames {used : String} (hused : ∀ field ∈ fs, key.Names field.1 ↔ field.1 = used) :
      fs.find? (key.Names ·.1) = (fs.get? used).map (used, ·) := by
    rw [← find?_key]
    refine List.find?_congr fun field hfield => ?_
    simp [hused field hfield]
  rw [FieldKey.find?]
  rcases h key hkey with hsame | hmain | hother
  · rw [hnames fun field _ => by rw [FieldKey.Names, ← hsame, or_self], ← hsame]
    cases fs.get? key.main <;> rfl
  · rw [get?_eq_none_iff.mpr hmain, hnames fun field hfield => ?_]
    refine or_iff_right fun hfirst => hmain ?_
    exact hfirst ▸ List.mem_map_of_mem hfield
  · rw [get?_eq_none_iff.mpr hother, hnames fun field hfield => ?_]
    · cases fs.get? key.main <;> rfl
    · refine or_iff_left fun hsecond => hother ?_
      exact hsecond ▸ List.mem_map_of_mem hfield

theorem NamedOnce.reads_iff (h : NamedOnce keys fs) (hkey : key ∈ keys) (hk : k ∈ fs.keys) :
    key.reads fs k = true ↔ key.Names k := by
  have hfound {field : String × Json} (hfield : fs.find? (key.Names ·.1) = some field) :
      field.1 ∈ fs.keys ∧ key.Names field.1 :=
    ⟨List.mem_map_of_mem (List.mem_of_find?_eq_some hfield), by simpa using List.find?_some hfield⟩
  rw [FieldKey.reads, h.find?_eq hkey, Option.any_eq_true]
  constructor
  · rintro ⟨field, hfield, heq⟩
    rw [beq_iff_eq] at heq
    exact heq ▸ (hfound hfield).2
  · intro hnames
    obtain ⟨field, hmem, rfl⟩ := List.mem_map.mp hk
    have hsome : (fs.find? (key.Names ·.1)).isSome = true := by
      rw [List.find?_isSome]
      exact ⟨field, hmem, by simpa using hnames⟩
    obtain ⟨first, hfirst⟩ := Option.isSome_iff_exists.mp hsome
    obtain ⟨hused, hnamed⟩ := hfound hfirst
    refine ⟨first, hfirst, ?_⟩
    rw [beq_iff_eq]
    exact h.unique hkey hused hk hnamed hnames

end Fields

-- ---------------------------------------------------------------------------
-- Respelled values
-- ---------------------------------------------------------------------------

/-- Where the option objects stand in a value: it is read as it stands, or it is a list, or an
object with these keys, whose fields' values are of the form that goes with their name. -/
inductive Form where
  | value
  | list (item : Form)
  | object (keys : List FieldKey) (part : String → Form)

namespace Form

/-- No option object in the value has a field under both names of its key. -/
def Once : Form → Json → Prop
  | value, _ => True
  | list item, v =>
    match v with
    | .arr vs => ∀ v ∈ vs, item.Once v
    | _ => True
  | object keys part, v =>
    match v with
    | .obj fs => Fields.NamedOnce keys fs ∧ ∀ field ∈ fs, (part field.1).Once field.2
    | _ => True

instance decideOnce : (form : Form) → (v : Json) → Decidable (form.Once v)
  | value, _ => .isTrue trivial
  | list item, v =>
    have := decideOnce item
    match v with
    | .arr vs => inferInstanceAs (Decidable (∀ v ∈ vs, item.Once v))
    | .null | .bool _ | .int _ | .float _ | .str _ | .obj _ => .isTrue trivial
  | object keys part, v =>
    have := fun k => decideOnce (part k)
    match v with
    | .obj fs => inferInstanceAs
        (Decidable (Fields.NamedOnce keys fs ∧ ∀ field ∈ fs, (part field.1).Once field.2))
    | .null | .bool _ | .int _ | .float _ | .str _ | .arr _ => .isTrue trivial

/-- The second value is the first one, with the other name of the key for some fields of each
option object in it. -/
def Respelled : Form → Json → Json → Prop
  | value, v, w => v = w
  | list item, v, w =>
    match v, w with
    | .arr vs, .arr ws => List.Forall₂ item.Respelled vs ws
    | v, w => v = w
  | object keys part, v, w =>
    match v, w with
    | .obj fs, .obj gs => ∃ chosen : String → Bool, List.Forall₂ (fun f g =>
        g.1 = FieldKey.respell keys chosen f.1 ∧ (part f.1).Respelled f.2 g.2) fs gs
    | v, w => v = w

end Form

theorem find?_forall₂ {R : α → β → Prop} {p : α → Bool} {q : β → Bool}
    (hpq : ∀ {a b}, R a b → p a = q b) {as : List α} {bs : List β} (h : List.Forall₂ R as bs) :
    as.find? p = none ∧ bs.find? q = none ∨
      ∃ a b, R a b ∧ as.find? p = some a ∧ bs.find? q = some b := by
  induction h with
  | nil => exact .inl ⟨rfl, rfl⟩
  | @cons a b as bs hab _ ih =>
    rw [List.find?_cons, List.find?_cons, ← hpq hab]
    cases p a with
    | true => exact .inr ⟨a, b, hab, rfl, rfl⟩
    | false => exact ih

namespace Fields

variable {keys : List FieldKey} {key : FieldKey} {part : String → Form} {fs gs : Fields}

structure Respelling (keys : List FieldKey) (part : String → Form) (fs gs : Fields) : Prop where
  apart : FieldKey.Apart keys
  once : (Form.object keys part).Once (.obj fs)
  respelled : (Form.object keys part).Respelled (.obj fs) (.obj gs)

namespace Respelling

theorem keys_eq (h : Respelling keys part fs gs) :
    ∃ chosen, gs.keys = fs.keys.map (FieldKey.respell keys chosen) := by
  obtain ⟨chosen, hfields⟩ := h.respelled
  refine ⟨chosen, ?_⟩
  clear h
  induction hfields with
  | nil => rfl
  | cons hfield _ ih => exact congrArg₂ List.cons hfield.1 ih

theorem namedOnce (h : Respelling keys part fs gs) : NamedOnce keys gs := by
  obtain ⟨chosen, hkeys⟩ := h.keys_eq
  intro key hkey
  by_contra! hboth
  obtain ⟨hne, hmain, hother⟩ := hboth
  rw [hkeys, List.mem_map] at hmain hother
  obtain ⟨k, hk, hmain⟩ := hmain
  obtain ⟨l, hl, hother⟩ := hother
  have hnames : key.Names k := (FieldKey.names_respell h.apart hkey).mp (.inl hmain)
  have hnames' : key.Names l := (FieldKey.names_respell h.apart hkey).mp (.inr hother)
  obtain rfl := h.once.1.unique hkey hk hl hnames hnames'
  exact hne (hmain.symm.trans hother)

/-- A key is found on both sides or on neither, and what is found is respelled. -/
theorem find?_cases (h : Respelling keys part fs gs) (hkey : key ∈ keys) :
    key.find? fs = none ∧ key.find? gs = none ∨
      ∃ f g, key.find? fs = some f ∧ key.find? gs = some g ∧ key.Names f.1 ∧
        (part f.1).Once f.2 ∧ (part f.1).Respelled f.2 g.2 := by
  obtain ⟨chosen, hfields⟩ := h.respelled
  rw [h.once.1.find?_eq hkey, h.namedOnce.find?_eq hkey]
  have hcases := find?_forall₂ (p := (key.Names ·.1)) (q := (key.Names ·.1)) (fun hfg => by
    rw [hfg.1, decide_eq_decide, FieldKey.names_respell h.apart hkey]) hfields
  refine hcases.imp_right ?_
  rintro ⟨f, g, ⟨-, hpart⟩, hf, hg⟩
  refine ⟨f, g, hf, hg, by simpa using List.find?_some hf, ?_, hpart⟩
  exact h.once.2 f (List.mem_of_find?_eq_some hf)

theorem unwhole_cases (h : Respelling keys part fs gs) :
    fs.keys.find? (!Text.isWhole ·) = none ∧ gs.keys.find? (!Text.isWhole ·) = none ∨
      ∃ k l, fs.keys.find? (!Text.isWhole ·) = some k ∧
        gs.keys.find? (!Text.isWhole ·) = some l := by
  obtain ⟨chosen, hkeys⟩ := h.keys_eq
  have hsame : ((!Text.isWhole ·) ∘ FieldKey.respell keys chosen) = (!Text.isWhole ·) := by
    funext k
    rw [Function.comp_apply, FieldKey.isWhole_respell h.apart]
  rw [hkeys, List.find?_map, hsame]
  cases fs.keys.find? (!Text.isWhole ·) with
  | none => exact .inl ⟨rfl, rfl⟩
  | some k => exact .inr ⟨k, _, rfl, rfl⟩

end Respelling

end Fields

-- ---------------------------------------------------------------------------
-- Readers that follow a form
-- ---------------------------------------------------------------------------

/-- The reader finds the same in a respelled value of the form. -/
structure Reader.Follows (r : Reader α) (form : Form) : Prop where
  agree : ∀ {v w}, form.Once v → form.Respelled v w → (r v).Agree (r w)

structure RecordReader.Follows (r : RecordReader α) (part : String → Form) : Prop where
  agree : ∀ {keys fs gs}, r.keys ⊆ keys → Fields.Respelling keys part fs gs →
    (r.read fs).Agree (r.read gs)

namespace Reader.Follows

variable {r : Reader α} {form item : Form} {keys : List FieldKey} {part : String → Form}

theorem value (r : Reader α) : Follows r .value where
  agree := by
    rintro v _ - rfl
    exact .refl _

theorem map (h : Follows r form) (f : α → β) : Follows (r.map f) form where
  agree honce hvw := (h.agree honce hvw).map f

theorem list (h : Follows r item) : Follows (Reader.list r) (.list item) where
  agree := by
    intro v w honce hvw
    cases v with
    | arr vs =>
      cases w with
      | arr ws =>
        have hitems := (List.forall₂_and_left _ _).mpr ⟨honce, hvw⟩
        have hagree : List.Forall₂ (fun v w => (r v).Agree (r w)) vs ws :=
          hitems.imp fun _ _ hitem => h.agree hitem.1 hitem.2
        exact .items hagree 0
      | _ => cases hvw
    | _ =>
      cases hvw
      exact .refl _

theorem object (h : ∀ {fs gs}, (Form.object keys part).Once (.obj fs) →
    (Form.object keys part).Respelled (.obj fs) (.obj gs) → (r (.obj fs)).Agree (r (.obj gs))) :
    Follows r (.object keys part) where
  agree := by
    intro v w honce hvw
    cases v with
    | obj fs =>
      cases w with
      | obj gs => exact h honce hvw
      | _ => cases hvw
    | _ =>
      cases hvw
      exact .refl _

theorem union {asIs : Json → Option α} {members : List (String × Reader α)}
    (hasIs : ∀ fs, asIs (.obj fs) = none)
    (h : ∀ member ∈ members, Follows member.2 (.object keys part)) :
    Follows (Reader.union asIs members) (.object keys part) := by
  refine object fun honce hfields => ?_
  simp only [Reader.union, hasIs]
  exact .firstOf fun member hmember => (h member hmember).agree honce hfields

end Reader.Follows

namespace RecordReader.Follows

variable {f : RecordReader (α → β)} {r : RecordReader α} {reader : Reader α} {main other : String}
  {part : String → Form}

theorem pure (a : α) : Follows (RecordReader.pure a) part where
  agree _ _ := .ok a

theorem seq (hf : Follows f part) (hr : Follows r part) : Follows (f.seq r) part where
  agree := by
    intro keys fs gs hkeys h
    rw [RecordReader.seq, List.append_subset] at hkeys
    exact (hf.agree hkeys.1 h).seq (hr.agree hkeys.2 h)

theorem found {absent : Fields → Checked α} (habsent : ∀ fs gs, (absent fs).Agree (absent gs))
    (hmain : reader.Follows (part main)) (hother : reader.Follows (part other)) :
    Follows ⟨[⟨main, other⟩], fun fs =>
      match FieldKey.find? ⟨main, other⟩ fs with
      | some (used, v) => (reader v).under used
      | none => absent fs⟩ part where
  agree := by
    intro keys fs gs hkeys h
    rcases h.find?_cases (hkeys List.mem_cons_self) with
      ⟨hfs, hgs⟩ | ⟨⟨used, v⟩, ⟨used', w⟩, hfs, hgs, hused, honce, hvw⟩
    · simp only [hfs, hgs]
      exact habsent fs gs
    · simp only [hfs, hgs]
      refine Checked.Agree.under ?_ used used'
      rcases hused with rfl | rfl
      · exact hmain.agree honce hvw
      · exact hother.agree honce hvw

theorem required (hf : Follows f part) (hmain : reader.Follows (part main))
    (hother : reader.Follows (part other)) : Follows (f.required main other reader) part :=
  hf.seq (found (fun _ _ => .bad rfl) hmain hother)

theorem field (hf : Follows f part) {default : α} (hmain : reader.Follows (part main))
    (hother : reader.Follows (part other)) : Follows (f.field main other default reader) part :=
  hf.seq (found (fun _ _ => .ok default) hmain hother)

end RecordReader.Follows

namespace RecordReader

variable {r : RecordReader α} {part : String → Form} {fs gs : Fields}

theorem extras_eq (h : Fields.NamedOnce r.keys fs) :
    r.extras fs = fs.filter fun field => !r.keys.any (·.Names field.1) := by
  refine List.filter_congr fun field hfield => ?_
  congr 1
  rw [Bool.eq_iff_iff, List.any_eq_true, List.any_eq_true]
  refine exists_congr fun key => and_congr_right fun hkey => ?_
  rw [h.reads_iff hkey (List.mem_map_of_mem hfield), decide_eq_true_iff]

theorem length_extras (h : Fields.Respelling r.keys part fs gs) :
    (r.extras fs).length = (r.extras gs).length := by
  obtain ⟨chosen, hfields⟩ := h.respelled
  rw [extras_eq h.once.1, extras_eq h.namedOnce]
  refine (List.rel_filter ?_ hfields).length_eq
  intro f g hfg
  simp only [hfg.1, Bool.not_eq_true', List.any_eq_false, decide_eq_true_iff]
  exact forall₂_congr fun key hkey => not_congr (FieldKey.names_respell h.apart hkey).symm

theorem noExtras_agree (h : Fields.Respelling r.keys part fs gs) :
    (r.noExtras fs).Agree (r.noExtras gs) := by
  have hlength := length_extras h
  unfold noExtras
  generalize r.extras fs = es, r.extras gs = es' at hlength ⊢
  cases es with
  | nil =>
    obtain rfl := List.length_eq_zero_iff.mp hlength.symm
    exact .ok ()
  | cons e es =>
    cases es' with
    | nil => cases hlength
    | cons e' es' =>
      refine .bad ?_
      simpa [List.map_map, Function.comp_def] using hlength

theorem Follows.strict (h : Follows r part) (hkeys : FieldKey.Apart r.keys) (kind : ProblemKind) :
    (r.strict kind).Follows (.object r.keys part) := by
  refine Reader.Follows.object fun {fs gs} honce hfields => ?_
  have hrespelling : Fields.Respelling r.keys part fs gs := ⟨hkeys, honce, hfields⟩
  rw [RecordReader.strict, RecordReader.strict]
  rcases hrespelling.unwhole_cases with ⟨hfs, hgs⟩ | ⟨k, l, hfs, hgs⟩
  · simp only [hfs, hgs]
    exact ((h.agree (List.Subset.refl _) hrespelling).map _).seq (noExtras_agree hrespelling)
  · simp only [hfs, hgs]
    exact .fail _ _ _

end RecordReader

-- ---------------------------------------------------------------------------
-- The schema
-- ---------------------------------------------------------------------------

namespace Schema

open RecordReader.Follows

def plainForm (keys : List FieldKey) : Form :=
  .object keys fun _ => .value

def noteForm : Form :=
  .object (noteFields .caller).keys fun
    | "options" => .list (plainForm noteDetailFields.keys)
    | _ => .value

def axisPart : String → Form
  | "labels" => .list (plainForm labelFields.keys)
  | "subLabels" | "sub_labels" => .list (plainForm subLabelFields.keys)
  | "referenceLines" | "reference_lines" => .list (plainForm referenceLineFields.keys)
  | "axisAnnotations" | "axis_annotations" => .list noteForm
  | "axisThumbnails" | "axis_thumbnails" => .list (plainForm thumbnailFields.keys)
  | _ => .value

def axisForm : Form :=
  .object (axisFields .caller).keys axisPart

variable (intake : Intake)

theorem label_follows : (label intake).Follows (plainForm labelFields.keys) := by
  refine RecordReader.Follows.strict ?_ (by decide) _
  exact pure Label.mk
    |>.required (.value _) (.value _)
    |>.field (.value _) (.value _)
    |>.field (.value _) (.value _)
    |>.field (.value _) (.value _)

theorem axisLabel_follows : (axisLabel intake).Follows (plainForm labelFields.keys) := by
  refine .union (fun _ => rfl) ?_
  simp only [List.forall_mem_cons]
  refine ⟨(label_follows intake).map _, ?_, ?_, ?_, by simp⟩
  · exact .object fun _ _ => .bad rfl
  · exact .object fun _ _ => .bad rfl
  · exact .object fun _ _ => .bad rfl

theorem subLabel_follows : (subLabel intake).Follows (plainForm subLabelFields.keys) := by
  refine RecordReader.Follows.strict ?_ (by decide) _
  exact pure SubLabel.mk
    |>.required (.value _) (.value _)
    |>.required (.value _) (.value _)
    |>.field (.value _) (.value _)
    |>.field (.value _) (.value _)

theorem referenceLine_follows :
    (referenceLine intake).Follows (plainForm referenceLineFields.keys) := by
  refine RecordReader.Follows.strict ?_ (by decide) _
  unfold referenceLineFields
  repeat' apply field
  any_goals exact Reader.Follows.value _
  exact (pure _).required (.value _) (.value _)

theorem noteDetail_follows : (noteDetail intake).Follows (plainForm noteDetailFields.keys) := by
  refine RecordReader.Follows.strict ?_ (by decide) _
  exact pure NoteDetail.mk
    |>.required (.value _) (.value _)
    |>.field (.value _) (.value _)

theorem note_follows : (note intake).Follows noteForm := by
  refine RecordReader.Follows.strict ?_ (by cases intake <;> decide) _
  refine field ?_ (.value _) (.value _)
  refine field ?_ (noteDetail_follows intake).list (noteDetail_follows intake).list
  exact pure NoteOptions.mk
    |>.field (.value _) (.value _)
    |>.field (.value _) (.value _)
    |>.field (.value _) (.value _)
    |>.field (.value _) (.value _)
    |>.field (.value _) (.value _)

theorem thumbnail_follows : (thumbnail intake).Follows (plainForm thumbnailFields.keys) := by
  refine RecordReader.Follows.strict ?_ (by decide) _
  exact (pure ThumbnailOptions.mk).field (.value _) (.value _)

theorem axisFeatures_follows : (axisFeatures intake).Follows axisPart := by
  unfold axisFeatures
  repeat' apply field
  any_goals exact Reader.Follows.value _
  -- what is left are the required field and the lists of objects, each under either name
  · exact (RecordReader.Follows.pure _).required (.value _) (.value _)
  · exact (axisLabel_follows intake).list
  · exact (axisLabel_follows intake).list
  · exact (subLabel_follows intake).list
  · exact (subLabel_follows intake).list
  · exact (referenceLine_follows intake).list
  · exact (referenceLine_follows intake).list
  · exact (note_follows intake).list
  · exact (note_follows intake).list
  · exact (thumbnail_follows intake).list
  · exact (thumbnail_follows intake).list

theorem axisFields_follows : (axisFields intake).Follows axisPart := by
  refine field ?_ (.value _) (.value _)
  refine field ?_ (.value _) (.value _)
  refine field ?_ (.value _) (.value _)
  exact (pure _).seq (axisFeatures_follows intake)

theorem axisKeys_apart : FieldKey.Apart (axisFields .caller).keys := by
  decide

end Schema

/-- Both spellings of an axis description read the same. -/
theorem AxisOptions.read_follows (intake : Intake) : (read intake).Follows Schema.axisForm := by
  have hkeys : (Schema.axisFields intake).keys = (Schema.axisFields .caller).keys :=
    (Schema.axisFields_alike intake .caller).keys_eq
  have hapart : FieldKey.Apart (Schema.axisFields intake).keys := by
    rw [hkeys]
    exact Schema.axisKeys_apart
  rw [Schema.axisForm, ← hkeys]
  exact (Schema.axisFields_follows intake).strict hapart intake.notObject

end VegaAxes
