import SqlBuilder.Proofs.Alignment
import SqlBuilder.Proofs.OwnCodec
import SqlBuilder.Proofs.Replacement

namespace SqlBuilder

/-!
# Payloads from JSON

An object is a payload with one scalar for each key.  So its text has one place for each key, and
the values of the keys have no part in it.

* `Codec.Writes`, `Codec.writes_print` — the text that a nested value becomes;
* `Json.BoundAs`, `Json.boundAs_toBind` — how a value is bound;
* `Payload.get?_ofList` — of several values for a column the last counts;
* `Payload.Scalar` — every column has one scalar;
* `Dialect.places`, `renderEach_scalars` — scalars are written as places;
* `Payload.WrittenAsPlaces` — the text of a row and of assignments;
* `Payload.SameText`, `Payload.sameText_of_subst` — payloads that no text tells apart;
* `conversion` — what becomes of a JSON value.
-/

variable {c : Codec}

/-! ### Scalars -/

/-- The text is one of the value.  It is the text of no other value without floats, and it is read
    back as the value, unless that is nested too deep for the reader. -/
structure Codec.Writes (c : Codec) (j : Json) (text : String) : Prop where
  isText : Json.IsText c.float text j
  unique : ∀ k : Json, k.Integral → Json.IsText c.float text k → k = j
  parse : c.parse? text = some j ↔ ∀ n ∈ c.limit, j.depth ≤ n

/-- A map without floats is written as a text of it, however deep it is nested. -/
theorem Codec.writes_print (hcompact : c.Compact) (hreads : c.ReadsJson) {j : Json}
    (hsorted : j.Sorted) (hintegral : j.Integral) : c.Writes j (c.print j) := by
  have htext : Json.IsText c.float (c.print j) j := by
    rw [hcompact j hsorted hintegral]
    exact Json.isText_print hintegral
  exact {
    isText := htext
    unique := fun k hk h => h.unique htext hk hintegral
    parse := hreads _ j htext hsorted hintegral }

/-- How a JSON value is bound.  What fits a scalar is bound unchanged.  An array or an object is
    bound as a text, and as a text of the value if that is a map without floats. -/
inductive Json.BoundAs (c : Codec) : Json → Bind → Prop
  | null : BoundAs c .null .null
  | bool (b : Bool) : BoundAs c (.bool b) (.bool b)
  | string (s : String) : BoundAs c (.string s) (.text s)
  | integer {i : Int} {range} {k : Int64} : k.toInt = i →
      BoundAs c (.number (.integer i range)) (.int64 k)
  /-- An integer beyond the signed range becomes a float. -/
  | large {i : Int} {range} : 9223372036854775808 ≤ i →
      BoundAs c (.number (.integer i range)) (.float64 (Numeral.Binary64.ofInt i))
  | float (x : Numeral.Binary64) : BoundAs c (.number (.float x)) (.float64 x)
  | array {items : List Json} {text : String} :
      ((Json.array items).Sorted → (Json.array items).Integral → c.Writes (.array items) text) →
      BoundAs c (.array items) (.text text)
  | object {members : List (String × Json)} {text : String} :
      ((Json.object members).Sorted → (Json.object members).Integral →
        c.Writes (.object members) text) →
      BoundAs c (.object members) (.text text)

theorem Json.boundAs_toBind (hcompact : c.Compact) (hreads : c.ReadsJson) (j : Json) :
    j.BoundAs c (j.toBind c.print) := by
  cases j with
  | null => exact .null
  | bool b => exact .bool b
  | string s => exact .string s
  | number n =>
    cases n with
    | float x => exact .float x
    | integer i range =>
      rw [toBind]
      split
      · rename_i hsmall
        exact .integer (Int64.toInt_ofInt_of_le range.1 hsmall)
      · exact .large (by omega)
  | array items => exact .array (Codec.writes_print hcompact hreads)
  | object members => exact .object (Codec.writes_print hcompact hreads)

namespace Payload

/-- Of several values for a column the last counts. -/
theorem get?_ofList (entries : List (String × Value)) (c : String) :
    (ofList entries).get? c = entries.reverse.lookup c := by
  -- The fold is over the entries, and the payload it has got to is arbitrary.
  have hfold : ∀ (entries : List (String × Value)) (p : Payload),
      (entries.foldl (fun p e => p.set e.1 e.2) p).get? c =
        (entries.reverse.lookup c).or (p.get? c) := by
    intro entries
    induction entries with
    | nil => intro p; rfl
    | cons e es ih =>
      intro p
      obtain ⟨column, v⟩ := e
      rw [List.foldl_cons, ih, get?_set, List.reverse_cons, List.lookup_append, List.lookup_cons]
      by_cases hc : column = c
      · subst hc
        simp
      · have hne : (c == column) = false := by simpa using Ne.symm hc
        simp [hc, hne]
  have hofList := hfold entries {}
  rw [show ({} : Payload).get? c = none from rfl, Option.or_none] at hofList
  exact hofList

section

variable (print : Json → String) (members : List (String × Json))

/-- The payload of an object has the last value of each key. -/
theorem get?_ofMembers (key : String) :
    (ofMembers print members).get? key =
      (members.reverse.lookup key).map fun j => .bind (j.toBind print) := by
  have hlookup : ∀ ms : List (String × Json),
      (ms.map fun m => (m.1, Value.bind (m.2.toBind print))).lookup key =
        (ms.lookup key).map fun j => .bind (j.toBind print) := by
    intro ms
    induction ms with
    | nil => rfl
    | cons m ms ih =>
      obtain ⟨k, j⟩ := m
      rw [List.map_cons, List.lookup_cons, List.lookup_cons, ih]
      cases key == k <;> rfl
  rw [ofMembers, get?_ofList, ← List.map_reverse]
  exact hlookup members.reverse

/-- Its columns are the keys. -/
theorem mem_columns_ofMembers (key : String) :
    key ∈ (ofMembers print members).columns ↔ key ∈ members.map Prod.fst := by
  rw [← isSome_get?_iff, get?_ofMembers, Option.isSome_map, List.lookup_isSome_iff, List.mem_map]
  simp only [List.mem_reverse, beq_iff_eq]
  exact exists_congr fun m => and_congr_right fun _ => eq_comm

end

/-- Every column has one scalar. -/
def Scalar (p : Payload) : Prop := ∀ v ∈ p.values, ∃ b, v = .bind b

theorem scalar_ofMembers (print : Json → String) (members : List (String × Json)) :
    (ofMembers print members).Scalar := by
  intro v hv
  obtain ⟨a, ha, rfl⟩ := List.mem_map.1 hv
  have hvalue := get?_of_mem ha
  rw [get?_ofMembers] at hvalue
  obtain ⟨j, _, hj⟩ := Option.map_eq_some_iff.1 hvalue
  exact ⟨_, hj.symm⟩

/-- The values are the scalars, one by one. -/
theorem Scalar.values_eq {p : Payload} (h : p.Scalar) : p.values = p.binds.map .bind := by
  have hvalues : ∀ vs : List Value, (∀ v ∈ vs, ∃ b, v = .bind b) →
      vs = (vs.flatMap Value.binds).map .bind := by
    intro vs
    induction vs with
    | nil => exact fun _ => rfl
    | cons v vs ih =>
      intro hall
      obtain ⟨⟨b, rfl⟩, hvs⟩ := List.forall_mem_cons.1 hall
      rw [List.flatMap_cons, List.map_append, ← ih hvs]
      rfl
  exact hvalues p.values h

/-- There are as many as columns. -/
theorem Scalar.length_binds {p : Payload} (h : p.Scalar) : p.binds.length = p.columns.length := by
  have hlength := congrArg List.length h.values_eq
  rw [List.length_map] at hlength
  rw [← hlength, values, columns, List.length_map, List.length_map]

end Payload

/-! ### Places -/

/-- The places of `k` values behind `n` others. -/
def Dialect.places (d : Dialect) (n k : Nat) : List String :=
  (List.range k).map fun i => d.placeholder (n + i + 1)

/-- Scalars are written as places. -/
theorem renderEach_scalars (d : Dialect) (n : Nat) (bs : List Bind) :
    Token.renderEach d n ((bs.map Value.bind).map Value.tokens) = d.places n bs.length := by
  induction bs generalizing n with
  | nil => rfl
  | cons b bs ih =>
    have hplace : Token.render d n (Value.bind b).tokens = d.placeholder (n + 1) := by
      simp [Value.tokens, Token.render, Token.allPieces, Token.pieces, Piece.renderAll,
        Piece.render]
    have hrest : d.places n (bs.length + 1) =
        d.placeholder (n + 1) :: d.places (n + 1) bs.length := by
      rw [Dialect.places, List.range_succ_eq_map, List.map_cons, List.map_map, Dialect.places]
      congr 1
      refine List.map_congr_left fun i _ => congrArg d.placeholder ?_
      omega
    have hbinds : (Value.bind b).tokens.flatMap Token.binds = [b] := rfl
    rw [List.map_cons, List.map_cons, Token.renderEach, hplace, hbinds, List.length_singleton, ih,
      List.length_cons, hrest]

theorem Payload.Scalar.renderEach_values {p : Payload} (h : p.Scalar) (d : Dialect) (n : Nat) :
    Token.renderEach d n (p.values.map Value.tokens) = d.places n p.columns.length := by
  rw [h.values_eq, renderEach_scalars, h.length_binds]

namespace Payload

/-- A payload has one place for each column, and no other text, in the row of an insertion and in
    the assignments of an update. -/
structure WrittenAsPlaces (p : Payload) (d : Dialect) : Prop where
  insert : ∀ (s t : Statement) text, s.admits .insert = true → s.insert [p] = .ok t →
    t.compile d = .ok text → ∃ earlier n, earlier.length = s.rows.length ∧
      text = Token.render d 0 t.insertHead ++
        (if p.columns.isEmpty then ""
          else " ( " ++ ", ".intercalate (p.columns.map d.wrapName) ++ " ) VALUES " ++
            ", ".intercalate
              (earlier ++ ["( " ++ ", ".intercalate (d.places n p.columns.length) ++ " )"])) ++
        (d.conflictText t.skipConflicts ++ d.returningText t.returning)
  update : ∀ (s : Statement) text, s.admits .update = true → (s.update p).compile d = .ok text →
    ∃ n m, text = "UPDATE " ++ Token.render d 0 (targetTokens s.table s.source) ++
      (if p.columns.isEmpty then ""
        else " SET " ++
          ", ".intercalate (List.zipWith (fun column place => column ++ " = " ++ place)
            (p.columns.map d.wrapName) (d.places n p.columns.length))) ++
      Token.render d m (Token.following (filterTokens .WHERE s.wheres))

theorem Scalar.writtenAsPlaces {p : Payload} (h : p.Scalar) (d : Dialect) :
    p.WrittenAsPlaces d where
  insert s t text hadmits ht htext := by
    obtain ⟨_, rfl⟩ := Statement.compile_eq_ok htext
    have hextended := Statement.extended_insert hadmits ht
    have hrender := Statement.render_insert d hextended.kind
    rw [Statement.rowsText, ← hextended.columns p List.mem_cons_self, hextended.rows,
      List.map_singleton, renderRows_append, List.map_append, renderRows, renderRows,
      List.map_singleton, h.renderEach_values] at hrender
    refine ⟨_, _, ?_, hrender⟩
    rw [List.length_map, length_renderRows]
  update s text hadmits htext := by
    obtain ⟨_, rfl⟩ := Statement.compile_eq_ok htext
    have hupdate : s.update p = { s with
        kind := some .update
        assignments := p.assignments
        ledger := s.ledger.put .assignments p.binds } := by
      rw [Statement.update, if_pos hadmits]
    have hempty : p.assignments.isEmpty = p.columns.isEmpty := by
      rw [columns, List.isEmpty_map]
    have hcolumns : p.assignments.map (d.wrapName ·.column) = p.columns.map d.wrapName := by
      rw [columns, List.map_map]
      rfl
    have hvalues : p.assignments.map (·.value.tokens) = p.values.map Value.tokens := by
      rw [values, List.map_map]
      rfl
    have hkind : (s.update p).kind = some .update := by rw [hupdate]
    obtain ⟨m, hm⟩ := Statement.render_update d hkind
    refine ⟨((targetTokens s.table s.source).flatMap Token.binds).length, m, ?_⟩
    rw [hm, hupdate, Statement.assignmentsText, hempty, hcolumns, hvalues, h.renderEach_values]

end Payload

/-! ### Payloads with other scalars -/

/-- Results that one map makes equal fail alike, or are values that it makes equal. -/
theorem eq_or_of_map_eq_map {ε α β : Type} {x y : Except ε α} {f : α → β} (h : x.map f = y.map f) :
    (∃ e, x = .error e ∧ y = .error e) ∨ ∃ a b, x = .ok a ∧ y = .ok b ∧ f a = f b := by
  cases x with
  | error e =>
    cases y with
    | error e' => exact .inl ⟨e, rfl, by rw [Except.error.inj h]⟩
    | ok b => cases h
  | ok a =>
    cases y with
    | error e => cases h
    | ok b => exact .inr ⟨a, b, rfl, rfl, Except.ok.inj h⟩

/-- Statements that differ in their scalars have the same text after the same calls. -/
theorem map_compile_runAll_congr {σ : Bind → Bind} {s t : Statement} (h : s.subst σ = t.subst σ)
    (later : List Step) (d : Dialect) :
    (runAll later s).map (·.compile d) = (runAll later t).map (·.compile d) := by
  have hfill : Supplies σ (stepInputs later) ((scalarsOf (stepInputs later)).map σ) :=
    List.prefix_rfl
  have hmap : (runAll later s).map (Statement.subst σ) =
      (runAll later t).map (Statement.subst σ) := by
    rw [← runAll_fill s later hfill, h, runAll_fill t later hfill]
  obtain ⟨e, hs, ht⟩ | ⟨u, v, hs, ht, huv⟩ := eq_or_of_map_eq_map hmap
  · rw [hs, ht]
  · have hcompile : u.compile d = v.compile d :=
      calc u.compile d
          = (u.subst σ).compile d := (Statement.compile_subst σ d u).symm
        _ = (v.subst σ).compile d := by rw [huv]
        _ = v.compile d := Statement.compile_subst σ d v
    rw [hs, ht]
    exact congrArg Except.ok hcompile

namespace Payload

/-- No text tells two payloads apart: neither that of an update nor that of an insertion, whatever
    rows stand around them and whatever calls follow. -/
structure SameText (p q : Payload) : Prop where
  update : ∀ (s : Statement) (later : List Step) (d : Dialect),
    (runAll later (s.update p)).map (·.compile d) = (runAll later (s.update q)).map (·.compile d)
  insert : ∀ (s : Statement) (before after : List Payload) (later : List Step) (d : Dialect),
    ((s.insert (before ++ p :: after)).mapError .misuse >>= runAll later).map (·.compile d) =
      ((s.insert (before ++ q :: after)).mapError .misuse >>= runAll later).map (·.compile d)

/-- Payloads that differ in their scalars are not told apart. -/
theorem sameText_of_subst {p q : Payload} {σ : Bind → Bind} (h : p.subst σ = q.subst σ) :
    p.SameText q where
  update s later d := by
    have hupdate : (s.update p).subst σ = (s.update q).subst σ := by
      rw [← Statement.update_subst, h, Statement.update_subst]
    exact map_compile_runAll_congr hupdate later d
  insert s before after later d := by
    have hmap : (s.insert (before ++ p :: after)).map (Statement.subst σ) =
        (s.insert (before ++ q :: after)).map (Statement.subst σ) := by
      simp only [← Statement.insert_subst, List.map_append, List.map_cons, h]
    obtain ⟨e, hp, hq⟩ | ⟨t, u, hp, hq, htu⟩ := eq_or_of_map_eq_map hmap
    · rw [hp, hq]
    · rw [hp, hq]
      exact map_compile_runAll_congr htu later d

/-- A payload is its assignments. -/
theorem eq_of_assignments {p q : Payload} (h : p.assignments = q.assignments) : p = q := by
  cases p
  cases q
  cases h
  rfl

/-- With one scalar in each column only the columns are left. -/
theorem Scalar.subst_null {p : Payload} (h : p.Scalar) :
    (p.subst fun _ => .null).assignments = p.columns.map fun c => ⟨c, .bind .null⟩ := by
  rw [subst, columns, List.map_map]
  refine List.map_congr_left fun a ha => ?_
  obtain ⟨b, hb⟩ := h a.value (List.mem_map_of_mem ha)
  obtain ⟨column, value⟩ := a
  obtain rfl : value = .bind b := hb
  rfl

theorem Scalar.sameText {p q : Payload} (hp : p.Scalar) (hq : q.Scalar)
    (h : p.columns = q.columns) : p.SameText q := by
  have hsubst : (p.subst fun _ => .null) = q.subst fun _ => .null := by
    refine eq_of_assignments ?_
    rw [hp.subst_null, hq.subst_null, h]
  exact sameText_of_subst hsubst

end Payload

/-! ### Conversion -/

/-- **Conversion.**  An object becomes a payload, and any other value is refused.  The columns are
    the keys in ascending order.  Each has one scalar, the last value of its key, and so one place
    in a text.  A nested value without floats is bound as a text of it and of no other value.  The
    text is read back as the value exactly if the reader allows for its depth.  Objects with the
    same keys are not told apart by a text. -/
theorem conversion (c : Codec) (hcompact : c.Compact) (hreads : c.ReadsJson) :
    (∀ j : Json, (∀ members, j ≠ .object members) → Payload.convert c.print j =
      .error (.invalidData ("expected a JSON object, got: " ++ c.print j))) ∧
    (∀ members : List (String × Json), ∃ p, Payload.convert c.print (.object members) = .ok p ∧
      p.columns.Pairwise (· < ·) ∧ (∀ key, key ∈ p.columns ↔ key ∈ members.map Prod.fst) ∧
      (∀ key j, members.reverse.lookup key = some j →
        ∃ b, p.get? key = some (.bind b) ∧ j.BoundAs c b) ∧
      p.Scalar ∧ ∀ d, p.WrittenAsPlaces d) ∧
    ∀ (members others : List (String × Json)) (p q : Payload),
      Payload.convert c.print (.object members) = .ok p →
      Payload.convert c.print (.object others) = .ok q →
      (∀ key, key ∈ members.map Prod.fst ↔ key ∈ others.map Prod.fst) → p.SameText q := by
  refine ⟨fun j hj => ?_, fun members => ?_, fun members others p q hp hq hkeys => ?_⟩
  · cases j with
    | object members => exact absurd rfl (hj members)
    | _ => rfl
  · have hscalar := Payload.scalar_ofMembers c.print members
    refine ⟨Payload.ofMembers c.print members, Payload.convert_object c.print members,
      Payload.ascending_columns _, Payload.mem_columns_ofMembers c.print members,
      fun key j hj => ⟨j.toBind c.print, ?_, j.boundAs_toBind hcompact hreads⟩,
      hscalar, hscalar.writtenAsPlaces⟩
    rw [Payload.get?_ofMembers, hj]
    rfl
  · rw [Payload.convert_object] at hp hq
    obtain rfl := Except.ok.inj hp
    obtain rfl := Except.ok.inj hq
    refine (Payload.scalar_ofMembers c.print members).sameText
      (Payload.scalar_ofMembers c.print others) ?_
    refine (Payload.ascending_columns _).eq_of_mem_iff (Payload.ascending_columns _) fun key => ?_
    rw [Payload.mem_columns_ofMembers, Payload.mem_columns_ofMembers, hkeys key]

/-- A list that holds an object and a text with a quote and a control. -/
def nestedTags : Json := .array [.object [("a", .null), ("b", .array [])], .string "\"\x01"]

/-- A nested value is bound as a text that this library reads back. -/
theorem conversion_nestedTags :
    ∃ p text, Payload.convert Codec.own.print (.object [("tags", nestedTags)]) = .ok p ∧
      p.get? "tags" = some (.bind (.text text)) ∧ Codec.own.parse? text = some nestedTags := by
  obtain ⟨_, hobject, _⟩ := conversion Codec.own Codec.own_compact Codec.own_readsJson
  obtain ⟨p, hp, _, _, hvalues, _⟩ := hobject [("tags", nestedTags)]
  obtain ⟨b, hb, hbound⟩ := hvalues "tags" nestedTags rfl
  cases hbound with
  | array hwrites =>
    have hempty : (Json.array []).Sorted ∧ (Json.array []).Integral :=
      ⟨.array (List.forall_mem_nil _), .array (List.forall_mem_nil _)⟩
    refine ⟨p, _, hp, hb, (hwrites (.array ?_) (.array ?_)).parse.2 ?_⟩
    · exact List.forall_mem_cons.2 ⟨.object (by decide) (List.forall_mem_cons.2 ⟨.null,
        List.forall_mem_singleton.2 hempty.1⟩), List.forall_mem_singleton.2 (.string _)⟩
    · exact List.forall_mem_cons.2 ⟨.object (List.forall_mem_cons.2 ⟨.null,
        List.forall_mem_singleton.2 hempty.2⟩), List.forall_mem_singleton.2 (.string _)⟩
    · rintro n hn
      cases hn
      decide

end SqlBuilder
