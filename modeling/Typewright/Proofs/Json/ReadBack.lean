import Typewright.Json.Octets
import Typewright.Proofs.Entries
import Typewright.Proofs.Json.Steps
import Typewright.Proofs.Text.Utf8

/-!
# Reading back what is written

What is written for a value over several lines is read as that value, if the value is free of
doubles and within the limits of the reader (`Storable`). Of a text that is written for a value
three things matter to what is written around it (`Writes`): how it starts, that it brings in no
carriage return, which would be taken for the end of a line, and that the value is read from it
whatever follows. Lists and objects are read line by line, by induction on their items.

From a file a value is read if it is read from its text (`Storable.readsBack`), since the octets of
a text decode to it.
-/

namespace Typewright.Json

variable {halves : Text.Halves} {room depth : Nat}

/-! ## What is written -/

/-- Whether a text starts with something that is no blank, ends neither a list nor an object, and
does not mark the order of octets. -/
def Starts (cs : List Char) : Prop :=
  ∃ c tail, cs = c :: tail ∧ isSpace c = false ∧ c ≠ ']' ∧ c ≠ '\x7d' ∧ c ≠ '\ufeff'

theorem Starts.append {cs : List Char} (h : Starts cs) (rest : List Char) :
    Starts (cs ++ rest) := by
  obtain ⟨c, tail, rfl, start⟩ := h
  exact ⟨c, tail ++ rest, rfl, start⟩

theorem Starts.ne_cons {cs : List Char} (h : Starts cs) (tail : List Char) :
    cs ≠ ']' :: tail ∧ cs ≠ '\x7d' :: tail ∧ cs ≠ '\ufeff' :: tail := by
  obtain ⟨c, tail', rfl, _, bracket, brace, mark⟩ := h
  refine ⟨?_, ?_, ?_⟩
  all_goals
    rintro ⟨⟩
    contradiction

theorem isSpace_of_mem_newline {c : Char} (hc : c ∈ (newline depth).toList) :
    isSpace c = true ∧ c ≠ '\r' := by
  simp only [newline, String.toList_append, String.toList_ofList, List.mem_append,
    List.mem_replicate] at hc
  rcases hc with hc | ⟨_, rfl⟩
  · rw [List.mem_singleton.1 hc]
    decide
  · decide

theorem skipSpace_cons {c : Char} (other : isSpace c = false) (cs : List Char) :
    (skipSpace (c :: cs)).1 = c :: cs := by
  rw [skipSpace]
  exact List.dropWhile_cons_of_neg (by simp [other])

theorem skipSpace_newline {cs : List Char} {c : Char} (other : isSpace c = false) :
    (skipSpace ((newline depth).toList ++ c :: cs)).1 = c :: cs := by
  rw [skipSpace]
  dsimp only
  rw [List.dropWhile_append_of_pos fun _ hd => (isSpace_of_mem_newline hd).1]
  exact List.dropWhile_cons_of_neg (by simp [other])

theorem Starts.skipSpace_newline {cs : List Char} (h : Starts cs) :
    (skipSpace ((newline depth).toList ++ cs)).1 = cs := by
  obtain ⟨c, tail, rfl, other, _⟩ := h
  exact Json.skipSpace_newline other

theorem Starts.skipSpace_space {cs : List Char} (h : Starts cs) :
    (skipSpace (' ' :: cs)).1 = cs := by
  obtain ⟨c, tail, rfl, other, _⟩ := h
  rw [Json.skipSpace]
  dsimp only
  rw [List.dropWhile_cons_of_pos (by decide)]
  exact List.dropWhile_cons_of_neg (by simp [other])

/-- Whether a text is what may be written for a value. -/
structure Writes (halves : Text.Halves) (room : Nat) (s : String) (v : Value) : Prop where
  /-- The text starts with something from which a value is read. -/
  starts : Starts s.toList
  /-- The text ends its lines with line feeds alone. -/
  lines : '\r' ∉ s.toList
  /-- The value is read from the text, up to something with which no number goes on. -/
  reads : ∀ rest, Ends rest → Reads (value halves room (s.toList ++ rest)) v rest

theorem ends_comma (rest : List Char) : Ends (',' :: rest) := by
  rintro _ ⟨⟩
  decide

theorem ends_newline (rest : List Char) : Ends ((newline depth).toList ++ rest) := by
  rw [newline, String.toList_append]
  rintro _ ⟨⟩
  decide

/-! ### Lists and objects -/

/-- Texts on lines of their own. -/
def lines (depth : Nat) (ss : List String) : List Char :=
  (("," ++ newline depth).intercalate ss).toList

theorem lines_singleton (s : String) : lines depth [s] = s.toList := by
  rw [lines, String.intercalate_singleton]

theorem lines_cons_cons (s s' : String) (ss : List String) :
    lines depth (s :: s' :: ss) =
      s.toList ++ ',' :: ((newline depth).toList ++ lines depth (s' :: ss)) := by
  rw [lines, String.intercalate_cons_cons, String.toList_append, String.toList_append,
    String.toList_append, List.append_assoc, List.append_assoc]
  rfl

theorem Starts.lines {s : String} (h : Starts s.toList) (ss : List String) :
    Starts (lines depth (s :: ss)) := by
  cases ss with
  | nil =>
      rw [lines_singleton]
      exact h
  | cons s' ss =>
      rw [lines_cons_cons]
      exact h.append _

theorem carriageReturn_not_mem_newline : '\r' ∉ (newline depth).toList :=
  fun hc => (isSpace_of_mem_newline hc).2 rfl

theorem carriageReturn_not_mem_lines {ss : List String} (h : ∀ s ∈ ss, '\r' ∉ s.toList) :
    '\r' ∉ lines depth ss := by
  cases ss with
  | nil =>
      rw [lines, String.intercalate_nil]
      exact List.not_mem_nil
  | cons s ss =>
      induction ss generalizing s with
      | nil =>
          rw [lines_singleton]
          exact h s List.mem_cons_self
      | cons s' ss ih =>
          have more := ih s' fun u hu => h u (List.mem_cons_of_mem _ hu)
          rw [lines_cons_cons]
          simp only [List.mem_append, List.mem_cons, not_or]
          exact ⟨h s List.mem_cons_self, by decide, carriageReturn_not_mem_newline, more⟩

theorem items_lines (depth d : Nat) {f : Value → String} {v : Value} {vs : List Value}
    (writes : ∀ w ∈ v :: vs, Writes halves room (f w) w) (done : List Value) (rest : List Char) :
    Reads (items halves room done
        (lines depth ((v :: vs).map f) ++ ((newline d).toList ++ ']' :: rest)))
      (done.reverse ++ v :: vs) rest := by
  rw [List.map_cons]
  induction vs generalizing v done with
  | nil =>
      have first := (writes v List.mem_cons_self).reads
      rw [List.map_nil, lines_singleton, ← List.reverse_cons]
      exact items_last (first _ (ends_newline _)) (skipSpace_newline rfl)
  | cons w ws ih =>
      have first := (writes v List.mem_cons_self).reads
      have writes := fun u hu => writes u (List.mem_cons_of_mem _ hu)
      have start := (writes w List.mem_cons_self).starts
      have read := ih writes (v :: done)
      rw [List.reverse_cons, List.append_assoc, List.singleton_append] at read
      rw [List.map_cons, lines_cons_cons, List.append_assoc, List.cons_append, List.append_assoc]
      exact items_cons (first _ (ends_comma _)) (skipSpace_cons rfl _)
        ((start.lines _).append _).skipSpace_newline read

theorem indentedItems_eq_map (vs : List Value) :
    indentedItems depth vs = vs.map (indentedAt depth) := by
  induction vs with
  | nil => rfl
  | cons v vs ih => rw [indentedItems, ih, List.map_cons]

/-- What is written for an entry. -/
def entryText (f : Value → String) (e : String × Value) : String := text e.1 ++ ": " ++ f e.2

theorem indentedEntries_eq_map (es : Entries) :
    indentedEntries depth es = es.map (entryText (indentedAt depth)) := by
  induction es with
  | nil => rfl
  | cons e es ih =>
      rw [indentedEntries, ih, List.map_cons]
      rfl

theorem toList_entryText_append (f : Value → String) (e : String × Value) (rest : List Char) :
    (entryText f e).toList ++ rest =
      '"' :: (e.1.toList.flatMap plainChar ++ '"' :: ':' :: ' ' :: ((f e.2).toList ++ rest)) := by
  rw [entryText, text, String.toList_append, String.toList_append, String.toList_ofList]
  simp

theorem carriageReturn_not_mem_entryText {f : Value → String} {e : String × Value}
    (h : '\r' ∉ (f e.2).toList) : '\r' ∉ (entryText f e).toList := by
  rw [← List.append_nil (entryText f e).toList, toList_entryText_append]
  simp [carriageReturn_not_mem_plainChar, h]

theorem textAfter_name (opening : List Char) (name : String) (rest : List Char) :
    Reads (textAfter halves opening [] (name.toList.flatMap plainChar ++ '"' :: rest)) name
      rest := by
  have read := textAfter_flatMap halves opening [] name.toList rest
  rw [List.reverse_nil, List.nil_append, String.ofList_toList] at read
  exact read

theorem starts_entryText (f : Value → String) (e : String × Value) :
    Starts (entryText f e).toList := by
  rw [← List.append_nil (entryText f e).toList, toList_entryText_append]
  exact ⟨'"', _, rfl, by decide⟩

theorem entries_lines (depth d : Nat) {f : Value → String} {e : String × Value} {es : Entries}
    (writes : ∀ e' ∈ e :: es, Writes halves room (f e'.2) e'.2) (done : Entries)
    (rest : List Char) :
    Reads (entries halves room done
        (lines depth ((e :: es).map (entryText f)) ++ ((newline d).toList ++ '\x7d' :: rest)))
      (done.putAll (e :: es)) rest := by
  rw [List.map_cons]
  induction es generalizing e done with
  | nil =>
      obtain ⟨start, _, first⟩ := writes e List.mem_cons_self
      rw [List.map_nil, lines_singleton, toList_entryText_append]
      exact entries_last (textAfter_name _ _ _) (skipSpace_cons rfl _)
        (start.append _).skipSpace_space (first _ (ends_newline _)) (skipSpace_newline rfl)
  | cons e' es ih =>
      obtain ⟨start, _, first⟩ := writes e List.mem_cons_self
      have read := ih (fun e hu => writes e (List.mem_cons_of_mem _ hu)) (done.put e.1 e.2)
      rw [List.map_cons, lines_cons_cons, List.append_assoc, toList_entryText_append,
        List.cons_append, List.append_assoc]
      exact entries_cons (textAfter_name _ _ _) (skipSpace_cons rfl _)
        (start.append _).skipSpace_space (first _ (ends_comma _)) (skipSpace_cons rfl _)
        (((starts_entryText f e').lines _).append _).skipSpace_newline read

/-! ## Values that are read back -/

/-- Whether a value is free of doubles and within the limits of the reader, so many lists and
objects being allowed inside each other. -/
inductive Storable : Nat → Value → Prop where
  | null {room : Nat} : Storable room .null
  | bool {room : Nat} (b : Bool) : Storable room (.bool b)
  | int {room : Nat} {n : Int} (limit : Fits n.natAbs) : Storable room (.int n)
  | str {room : Nat} (s : String) : Storable room (.str s)
  | list {room : Nat} {vs : List Value} (items : ∀ v ∈ vs, Storable room v) :
      Storable (room + 1) (.list vs)
  | object {room : Nat} {es : Entries} (names : (es.map Prod.fst).Nodup)
      (values : ∀ e ∈ es, Storable room e.2) : Storable (room + 1) (.object es)

mutual

/-- Whether a value can be stored, so many lists and objects being allowed inside each other. -/
def isStorable : Nat → Value → Bool
  | _, .null => true
  | _, .bool _ => true
  | _, .int n => Fits n.natAbs
  | _, .double _ => false
  | _, .str _ => true
  | 0, .list _ => false
  | room + 1, .list vs => areStorable room vs
  | 0, .object _ => false
  | room + 1, .object es => (es.map Prod.fst).Nodup && entriesStorable room es

/-- Whether all items of a list can be stored. -/
def areStorable (room : Nat) : List Value → Bool
  | [] => true
  | v :: vs => isStorable room v && areStorable room vs

/-- Whether the values of all entries can be stored. -/
def entriesStorable (room : Nat) : List (String × Value) → Bool
  | [] => true
  | (_, v) :: es => isStorable room v && entriesStorable room es

end

theorem areStorable_iff {vs : List Value} :
    areStorable room vs = true ↔ ∀ v ∈ vs, isStorable room v = true := by
  induction vs with
  | nil => simp [areStorable]
  | cons v vs ih => rw [areStorable, Bool.and_eq_true, ih, List.forall_mem_cons]

theorem entriesStorable_iff {es : Entries} :
    entriesStorable room es = true ↔ ∀ e ∈ es, isStorable room e.2 = true := by
  induction es with
  | nil => simp [entriesStorable]
  | cons e es ih => rw [entriesStorable, Bool.and_eq_true, ih, List.forall_mem_cons]

theorem Storable.isStorable {v : Value} (h : Storable room v) : isStorable room v = true := by
  induction h with
  | int limit =>
      rw [Json.isStorable]
      exact decide_eq_true limit
  | list _ ih =>
      rw [Json.isStorable]
      exact areStorable_iff.2 ih
  | object names _ ih =>
      rw [Json.isStorable, entriesStorable_iff.2 ih, decide_eq_true names]
      rfl
  | _ => rw [Json.isStorable]

mutual

theorem storable_of_isStorable : ∀ {room : Nat} {v : Value}, isStorable room v = true →
    Storable room v
  | _, .null, _ => .null
  | _, .bool b, _ => .bool b
  | _, .int n, h => by
      rw [isStorable] at h
      exact .int (of_decide_eq_true h)
  | _, .double _, h => by simp [isStorable] at h
  | _, .str s, _ => .str s
  | 0, .list _, h | 0, .object _, h => by simp [isStorable] at h
  | room + 1, .list vs, h => by
      rw [isStorable] at h
      exact .list (storable_of_areStorable h)
  | room + 1, .object es, h => by
      rw [isStorable, Bool.and_eq_true, decide_eq_true_iff] at h
      exact .object h.1 (storable_of_entriesStorable h.2)

theorem storable_of_areStorable : ∀ {room : Nat} {vs : List Value}, areStorable room vs = true →
    ∀ v ∈ vs, Storable room v
  | _, [], _ => by simp
  | room, v :: vs, h => by
      rw [areStorable, Bool.and_eq_true] at h
      exact List.forall_mem_cons.2 ⟨storable_of_isStorable h.1, storable_of_areStorable h.2⟩

theorem storable_of_entriesStorable : ∀ {room : Nat} {es : List (String × Value)},
    entriesStorable room es = true → ∀ e ∈ es, Storable room e.2
  | _, [], _ => by simp
  | room, (_, v) :: es, h => by
      rw [entriesStorable, Bool.and_eq_true] at h
      exact List.forall_mem_cons.2 ⟨storable_of_isStorable h.1, storable_of_entriesStorable h.2⟩

end

instance (room : Nat) (v : Value) : Decidable (Storable room v) :=
  decidable_of_iff _ ⟨storable_of_isStorable, Storable.isStorable⟩

theorem Writes.of_scalar {s : String} {v : Value} {c : Char} {cs : List Char}
    (spelled : s.toList = c :: cs)
    (start : isSpace c = false ∧ c ≠ ']' ∧ c ≠ '\x7d' ∧ c ≠ '\ufeff')
    (other : c ≠ '"' ∧ c ≠ '[' ∧ c ≠ '\x7b') (lines : '\r' ∉ c :: cs)
    (read : ∀ rest, Ends rest → Reads (scalar (s.toList ++ rest)) v rest) :
    Writes halves room s v := by
  refine ⟨⟨c, cs, spelled, start⟩, spelled ▸ lines, fun rest ends => ?_⟩
  have read := read rest ends
  rw [spelled, List.cons_append] at read ⊢
  exact value_scalar other read

theorem writes_null : Writes halves room "null" .null :=
  .of_scalar (c := 'n') rfl (by decide) (by decide) (by decide)
    fun rest _ => scalar_null rest

theorem writes_bool (b : Bool) : Writes halves room (if b then "true" else "false") (.bool b) := by
  cases b
  · exact .of_scalar (c := 'f') rfl (by decide) (by decide) (by decide)
      fun rest _ => scalar_bool false rest
  · exact .of_scalar (c := 't') rfl (by decide) (by decide) (by decide)
      fun rest _ => scalar_bool true rest

theorem writes_int {n : Int} (limit : Fits n.natAbs) :
    Writes halves room (toString n) (.int n) := by
  have own : ∀ c ∈ (toString n).toList, c = '-' ∨ isDigit c = true := by
    intro c hc
    rw [toList_toString] at hc
    split at hc
    · exact (List.mem_cons.1 hc).imp_right isDigit_of_mem_toDigits
    · exact .inr (isDigit_of_mem_toDigits hc)
  have other {c : Char} (h : c ≠ '-' ∧ isDigit c = false) : c ∉ (toString n).toList := by
    intro hc
    cases own c hc with
    | inl minus => exact h.1 minus
    | inr digit => exact Bool.false_ne_true (h.2.symm.trans digit)
  have some : (toString n).toList ≠ [] := by
    rw [toList_toString]
    split
    · exact List.cons_ne_nil _ _
    · exact Nat.toDigits_ne_nil
  obtain ⟨c, cs, spelled⟩ := List.exists_cons_of_ne_nil some
  have start {d : Char} (h : d ≠ '-' ∧ isDigit d = false) : c ≠ d := by
    rintro rfl
    exact other h (spelled ▸ List.mem_cons_self)
  refine .of_scalar spelled ⟨?_, start (by decide), start (by decide), start (by decide)⟩
    ⟨start (by decide), start (by decide), start (by decide)⟩ (spelled ▸ other (by decide))
    fun _ => scalar_int limit
  simp only [isSpace, Bool.or_eq_false_iff, beq_eq_false_iff_ne]
  exact ⟨⟨⟨start (by decide), start (by decide)⟩, start (by decide)⟩, start (by decide)⟩

theorem writes_text (s : String) : Writes halves room (text s) (.str s) := by
  refine ⟨⟨'"', _, String.toList_ofList, by decide⟩, ?_, fun rest _ => ?_⟩
  · simp [text, carriageReturn_not_mem_plainChar]
  · rw [text, String.toList_ofList, List.cons_append, List.append_assoc]
    exact value_text (textAfter_name _ _ _)

section block

variable {opening closing s : String} {ss : List String}

theorem toList_block : (block depth opening closing (s :: ss)).toList =
    opening.toList ++ ((newline (depth + 1)).toList ++
      (lines (depth + 1) (s :: ss) ++ ((newline depth).toList ++ closing.toList))) := by
  rw [block, if_neg (by simp), lines]
  simp only [String.toList_append, List.append_assoc]

theorem carriageReturn_not_mem_block (h : '\r' ∉ opening.toList ∧ '\r' ∉ closing.toList)
    (each : ∀ u ∈ s :: ss, '\r' ∉ u.toList) :
    '\r' ∉ (block depth opening closing (s :: ss)).toList := by
  rw [toList_block]
  simp only [List.mem_append, not_or]
  exact ⟨h.1, carriageReturn_not_mem_newline, carriageReturn_not_mem_lines each,
    carriageReturn_not_mem_newline, h.2⟩

end block

theorem writes_list {f : Value → String} {vs : List Value}
    (writes : ∀ v ∈ vs, Writes halves room (f v) v) :
    Writes halves (room + 1) (block depth "[" "]" (vs.map f)) (.list vs) := by
  cases vs with
  | nil =>
      have empty : block depth "[" "]" [] = "[]" := rfl
      rw [List.map_nil, empty]
      exact ⟨⟨'[', [']'], rfl, by decide⟩, by decide, fun rest _ => value_list_nil⟩
  | cons v vs =>
      have plain : ∀ s ∈ (v :: vs).map f, '\r' ∉ s.toList := by
        rw [List.forall_mem_map]
        exact fun w hw => (writes w hw).lines
      have start (rest : List Char) : Starts (lines (depth + 1) ((v :: vs).map f) ++ rest) :=
        ((writes v List.mem_cons_self).starts.lines _).append rest
      have read := items_lines (depth + 1) depth writes []
      refine ⟨?_, carriageReturn_not_mem_block (by decide) plain, fun rest _ => ?_⟩
      · rw [List.map_cons, toList_block]
        exact ⟨'[', _, rfl, by decide⟩
      · rw [List.map_cons, toList_block, List.append_assoc, List.append_assoc, List.append_assoc,
          List.append_assoc]
        exact value_list_cons (start _).skipSpace_newline (fun tail => ((start _).ne_cons tail).1)
          (read rest)

theorem writes_object {f : Value → String} {es : Entries} (names : (es.map Prod.fst).Nodup)
    (writes : ∀ e ∈ es, Writes halves room (f e.2) e.2) :
    Writes halves (room + 1) (block depth "\x7b" "\x7d" (es.map (entryText f))) (.object es) := by
  cases es with
  | nil =>
      have empty : block depth "\x7b" "\x7d" [] = "\x7b\x7d" := rfl
      rw [List.map_nil, empty]
      exact ⟨⟨'\x7b', ['\x7d'], rfl, by decide⟩, by decide, fun rest _ => value_object_nil⟩
  | cons e es =>
      have plain : ∀ s ∈ (e :: es).map (entryText f), '\r' ∉ s.toList := by
        rw [List.forall_mem_map]
        exact fun e he => carriageReturn_not_mem_entryText (writes e he).lines
      have start (rest : List Char) :
          Starts (lines (depth + 1) ((e :: es).map (entryText f)) ++ rest) :=
        ((starts_entryText f e).lines _).append rest
      have read := entries_lines (depth + 1) depth writes []
      rw [Entries.putAll_nil names] at read
      refine ⟨?_, carriageReturn_not_mem_block (by decide) plain, fun rest _ => ?_⟩
      · rw [List.map_cons, toList_block]
        exact ⟨'\x7b', _, rfl, by decide⟩
      · rw [List.map_cons, toList_block, List.append_assoc, List.append_assoc, List.append_assoc,
          List.append_assoc]
        exact value_object_cons (start _).skipSpace_newline
          (fun tail => ((start _).ne_cons tail).2.1) (read rest)

/-- What is written for a value is read as that value. -/
theorem Storable.writes {v : Value} (h : Storable room v) (depth : Nat) :
    Writes halves room (indentedAt depth v) v := by
  induction h generalizing depth with
  | null =>
      rw [indentedAt]
      exact writes_null
  | bool b =>
      rw [indentedAt]
      exact writes_bool b
  | int limit =>
      rw [indentedAt]
      exact writes_int limit
  | str s =>
      rw [indentedAt]
      exact writes_text s
  | @list room vs _ ih =>
      rw [indentedAt, indentedItems_eq_map]
      exact writes_list fun v hv => ih v hv (depth + 1)
  | @object room es names _ ih =>
      rw [indentedAt, indentedEntries_eq_map]
      exact writes_object names fun e he => ih e he (depth + 1)

/-! ## Files -/

theorem unifyLineEnds_eq_self {cs : List Char} (h : '\r' ∉ cs) : Text.unifyLineEnds cs = cs := by
  fun_induction Text.unifyLineEnds cs with
  | case1 => rfl
  | case2 => cases h List.mem_cons_self
  | case3 => cases h List.mem_cons_self
  | case4 c rest _ _ ih => rw [ih fun more => h (List.mem_cons_of_mem _ more)]

variable {reader : Reader}

theorem parseChars_of_reads {cs : List Char} {v : Value} (start : Starts cs)
    (read : Reads (value reader.halves reader.depth cs) v []) : parseChars reader cs = .ok v := by
  have blanks : (skipSpace cs).1 = cs := by
    obtain ⟨c, tail, rfl, other, _⟩ := start
    exact skipSpace_cons other tail
  rw [← blanks] at read
  obtain ⟨shorter, read⟩ := read
  rw [parseChars, read]
  · rfl
  · exact fun tail => (start.ne_cons tail).2.2

/-- Whether what is written for a value is read as that value. -/
def ReadsBack (reader : Reader) (v : Value) : Prop :=
  ofOctets reader (Text.encode (indented v)) = .ok v

theorem Storable.readsBack {v : Value} (h : Storable reader.depth v) : ReadsBack reader v := by
  obtain ⟨start, lines, reads⟩ : Writes reader.halves reader.depth (indented v) v := h.writes 0
  have read := reads [] (by rintro _ ⟨⟩)
  rw [List.append_nil] at read
  rw [ReadsBack, ofOctets, Text.decode?_encode]
  dsimp only
  rw [unifyLineEnds_eq_self lines, ofText, parseChars_of_reads start read]

end Typewright.Json
