import Colloquy.Flag.Packed

/-!
# Colloquy.Proofs.Flag.Packed

Flags packed into a text and read again.

* `IsNormal`        — the lists of flags that survive packing.
* `decode_encode`   — they do.
* `isNormal_decode` — every text, however malformed, is read as such a list.
* `isNormal_set`    — setting a flag keeps a list so, if name and value are free of separators.
-/

namespace Colloquy.Flag

open Text

/-! ### Lists of flags -/

def names (flags : Entries) : List String :=
  flags.map (·.1)

@[simp] theorem names_cons (name value : String) (flags : Entries) :
    names ((name, value) :: flags) = name :: names flags := rfl

/-- The flags survive packing. A value may hold the separator between name and value. -/
structure IsNormal (flags : Entries) : Prop where
  distinct : (names flags).Nodup
  plainName : ∀ f ∈ flags, hasSeparator f.1 = false
  plainValue : ∀ f ∈ flags, entrySeparator ∉ f.2.toList

theorem isNormal_nil : IsNormal [] :=
  ⟨List.nodup_nil, by simp, by simp⟩

theorem set_of_not_mem {name value : String} {flags : Entries} (h : name ∉ names flags) :
    set name value flags = flags ++ [(name, value)] := by
  induction flags with
  | nil => rfl
  | cons f rest ih =>
    obtain ⟨n, v⟩ := f
    have hne : n ≠ name := by
      rintro rfl
      exact h List.mem_cons_self
    have hrest : name ∉ names rest := fun hmem => h (List.mem_cons_of_mem _ hmem)
    rw [set, if_neg hne, ih hrest, List.cons_append]

theorem get_of_not_mem {name : String} {flags : Entries} (h : name ∉ names flags) :
    get name flags = unset := by
  induction flags with
  | nil => rfl
  | cons f rest ih =>
    obtain ⟨n, v⟩ := f
    have hne : n ≠ name := by
      rintro rfl
      exact h List.mem_cons_self
    rw [get, if_neg hne]
    exact ih fun hmem => h (List.mem_cons_of_mem _ hmem)

theorem names_set_of_mem {name value : String} {flags : Entries} (h : name ∈ names flags) :
    names (set name value flags) = names flags := by
  induction flags with
  | nil => cases h
  | cons f rest ih =>
    obtain ⟨n, v⟩ := f
    rw [set]
    split
    · rfl
    · rename_i hne
      rw [names_cons, names_cons, ih]
      rcases List.mem_cons.mp h with heq | hmem
      · exact absurd heq.symm hne
      · exact hmem

theorem names_set (name value : String) (flags : Entries) :
    names (set name value flags) =
      if name ∈ names flags then names flags else names flags ++ [name] := by
  by_cases h : name ∈ names flags
  · rw [if_pos h, names_set_of_mem h]
  · rw [if_neg h, set_of_not_mem h, names, List.map_append]
    rfl

theorem mem_of_mem_set {name value : String} {flags : Entries} {f : String × String}
    (h : f ∈ set name value flags) : f = (name, value) ∨ f ∈ flags := by
  induction flags with
  | nil => exact .inl (List.mem_singleton.mp h)
  | cons g rest ih =>
    obtain ⟨n, v⟩ := g
    rw [set] at h
    split at h
    · rename_i hn
      rcases List.mem_cons.mp h with h | h
      · exact .inl (by rw [h, hn])
      · exact .inr (List.mem_cons_of_mem _ h)
    · rcases List.mem_cons.mp h with h | h
      · exact .inr (by rw [h]; exact List.mem_cons_self)
      · rcases ih h with h | h
        · exact .inl h
        · exact .inr (List.mem_cons_of_mem _ h)

theorem isNormal_set {name value : String} {flags : Entries} (h : IsNormal flags)
    (hname : hasSeparator name = false) (hvalue : entrySeparator ∉ value.toList) :
    IsNormal (set name value flags) := by
  refine ⟨?_, fun f hf => ?_, fun f hf => ?_⟩
  · rw [names_set]
    split
    · exact h.distinct
    · rename_i hnot
      rw [List.nodup_append]
      refine ⟨h.distinct, by simp, ?_⟩
      intro a ha b hb
      rw [List.mem_singleton.mp hb]
      rintro rfl
      exact hnot ha
  · rcases mem_of_mem_set hf with rfl | hf
    · exact hname
    · exact h.plainName f hf
  · rcases mem_of_mem_set hf with rfl | hf
    · exact hvalue
    · exact h.plainValue f hf

/-! ### Pieces -/

def pieceOf (f : String × String) : List Char :=
  f.1.toList ++ valueSeparator :: f.2.toList

theorem readPiece?_pieceOf {f : String × String} (h : hasSeparator f.1 = false) :
    readPiece? (pieceOf f) = some f := by
  have hplain : ∀ c ∈ f.1.toList, (c == valueSeparator) = false := by
    intro c hc
    rw [beq_eq_false_iff_ne]
    rintro rfl
    exact (hasSeparator_eq_false_iff.mp h).1 hc
  rw [readPiece?, pieceOf, cutAt_append_cons hplain (by decide)]
  simp

theorem addPiece_pieceOf {f : String × String} (flags : Entries)
    (h : hasSeparator f.1 = false) : addPiece flags (pieceOf f) = set f.1 f.2 flags := by
  rw [addPiece, readPiece?_pieceOf h]

theorem plain_of_readPiece? {w : List Char} {name value : String} (hw : entrySeparator ∉ w)
    (h : readPiece? w = some (name, value)) :
    hasSeparator name = false ∧ entrySeparator ∉ value.toList := by
  obtain ⟨⟨a, b⟩, hcut, heq⟩ := Option.map_eq_some_iff.mp h
  obtain ⟨rfl, rfl⟩ := Prod.mk.inj heq
  obtain ⟨c, _, rfl, ha⟩ := cutAt_eq_some hcut
  rw [hasSeparator_eq_false_iff, String.toList_ofList, String.toList_ofList]
  refine ⟨⟨fun hmem => ?_, fun hmem => ?_⟩, fun hmem => ?_⟩
  · exact absurd (ha _ hmem) (by decide)
  · exact hw (List.mem_append_left _ hmem)
  · exact hw (List.mem_append_right _ (List.mem_cons_of_mem _ hmem))

theorem not_mem_of_mem_pieces {packed : String} {w : List Char} (h : w ∈ pieces packed) :
    entrySeparator ∉ w := by
  intro hmem
  simpa using not_mem_of_mem_splitBy (List.mem_filter.mp h).1 hmem

theorem pieces_encode {flags : Entries} (h : IsNormal flags) :
    pieces (encode flags) = flags.map pieceOf := by
  have htoList : (encode flags).toList = [entrySeparator].intercalate (flags.map pieceOf) := by
    rw [encode, join, String.toList_intercalate, List.map_map]
    congr 1
    refine List.map_congr_left fun f _ => ?_
    simp [pieceOf, valueSeparator]
  have hplain : ∀ w ∈ flags.map pieceOf, ∀ c ∈ w, (c == entrySeparator) = false := by
    intro w hw c hc
    obtain ⟨f, hf, rfl⟩ := List.mem_map.mp hw
    rw [beq_eq_false_iff_ne]
    rintro rfl
    rcases List.mem_append.mp hc with hc | hc
    · exact (hasSeparator_eq_false_iff.mp (h.plainName f hf)).2 hc
    · rcases List.mem_cons.mp hc with hc | hc
      · exact absurd hc (by decide)
      · exact h.plainValue f hf hc
  rw [pieces, htoList]
  cases flags with
  | nil => rfl
  | cons f rest =>
    rw [splitBy_intercalate (by decide) (by simp) hplain, List.filter_eq_self]
    intro w hw
    obtain ⟨g, _, rfl⟩ := List.mem_map.mp hw
    simp [pieceOf]

/-! ### Texts -/

theorem foldl_addPiece {flags : Entries} {earlier : Entries} (h : IsNormal (earlier ++ flags)) :
    (flags.map pieceOf).foldl addPiece earlier = earlier ++ flags := by
  induction flags generalizing earlier with
  | nil => simp
  | cons f rest ih =>
    have hname : hasSeparator f.1 = false := h.plainName f (by simp)
    have hnew : f.1 ∉ names earlier := by
      have hdistinct := h.distinct
      rw [names, List.map_append, List.nodup_append] at hdistinct
      intro hmem
      exact hdistinct.2.2 _ hmem f.1 (by simp) rfl
    have hassoc : earlier ++ f :: rest = (earlier ++ [f]) ++ rest := by simp
    rw [List.map_cons, List.foldl_cons, addPiece_pieceOf earlier hname, set_of_not_mem hnew, hassoc]
    exact ih (hassoc ▸ h)

theorem decode_encode {flags : Entries} (h : IsNormal flags) : decode (encode flags) = flags := by
  rw [decode, pieces_encode h]
  exact foldl_addPiece (by simpa using h)

/-- Every text is read as a list of flags that survives packing. -/
theorem isNormal_decode (packed : String) : IsNormal (decode packed) := by
  have hfold : ∀ (ws : List (List Char)) (flags : Entries), (∀ w ∈ ws, entrySeparator ∉ w) →
      IsNormal flags → IsNormal (ws.foldl addPiece flags) := by
    intro ws
    induction ws with
    | nil => exact fun _ _ h => h
    | cons w ws ih =>
      intro flags hws h
      rw [List.foldl_cons]
      refine ih _ (fun v hv => hws v (List.mem_cons_of_mem _ hv)) ?_
      rw [addPiece]
      split
      · rename_i name value hread
        obtain ⟨hname, hvalue⟩ := plain_of_readPiece? (hws w List.mem_cons_self) hread
        exact isNormal_set h hname hvalue
      · exact h
  exact hfold _ _ (fun _ hw => not_mem_of_mem_pieces hw) isNormal_nil

end Colloquy.Flag
