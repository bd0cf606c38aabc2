import Colloquy.Proofs.Flag.Packed
import Mathlib.Data.List.Induction
import Mathlib.Data.List.Nodup

/-!
# Colloquy.Proofs.Flag.Mention

What a packed text says, piece by piece. A piece mentions the name before its first `:`, and all
that follows is the value it writes.

* `Writes`, `Mentions` — one piece.
* `WritesLast`         — the last piece that mentions a name writes this value.
* `MentionedBefore`    — one name has been mentioned where another has not been yet.
* `Tabulates`          — a list of flags has each name with its last value, in the order of first
  mention. Only one list does (`Tabulates.unique`), and reading finds it (`tabulates_decode`).
-/

namespace Colloquy.Flag

open Text

/-- The piece is a name without `:`, then `:`, then the value. -/
def Writes (piece name value : String) : Prop :=
  valueSeparator ∉ name.toList ∧ piece = name ++ ":" ++ value

def Mentions (piece name : String) : Prop :=
  ∃ value, Writes piece name value

/-- No piece behind the one that writes the value mentions the name. -/
def WritesLast (ps : List String) (name value : String) : Prop :=
  ∃ before piece after, ps = before ++ piece :: after ∧ Writes piece name value ∧
    ∀ q ∈ after, ¬Mentions q name

/-- Some of the first pieces mention `m`, and none of them mentions `n`. -/
def MentionedBefore (ps : List String) (m n : String) : Prop :=
  ∃ before, before <+: ps ∧ (∃ p ∈ before, Mentions p m) ∧ ∀ q ∈ before, ¬Mentions q n

/-- The flags of the pieces: each name with its last value, in the order of first mention. -/
structure Tabulates (flags : Entries) (ps : List String) : Prop where
  mem_iff : ∀ name value, (name, value) ∈ flags ↔ WritesLast ps name value
  ordered : (names flags).Pairwise (MentionedBefore ps)

variable {ps : List String} {piece name value m n : String} {flags : Entries}

/-! ### One piece -/

theorem toList_of_writes (h : Writes piece name value) :
    piece.toList = name.toList ++ valueSeparator :: value.toList := by
  rw [h.2]
  simp [valueSeparator]

theorem readPiece?_eq_some_iff :
    readPiece? piece.toList = some (name, value) ↔ Writes piece name value := by
  constructor
  · intro h
    obtain ⟨⟨a, b⟩, hcut, heq⟩ := Option.map_eq_some_iff.mp h
    obtain ⟨rfl, rfl⟩ := Prod.mk.inj heq
    obtain ⟨c, hc, hpiece, ha⟩ := cutAt_eq_some hcut
    obtain rfl : c = valueSeparator := by simpa using hc
    refine ⟨fun hmem => ?_, ?_⟩
    · rw [String.toList_ofList] at hmem
      simpa using ha _ hmem
    · apply String.toList_inj.mp
      simp [hpiece, valueSeparator]
  · intro h
    have hname : ∀ c ∈ name.toList, (c == valueSeparator) = false := by
      intro c hc
      rw [beq_eq_false_iff_ne]
      rintro rfl
      exact h.1 hc
    rw [readPiece?, toList_of_writes h, cutAt_append_cons hname (by simp)]
    simp

theorem Writes.unique {name' value' : String} (h : Writes piece name value)
    (h' : Writes piece name' value') : name = name' ∧ value = value' := by
  have heq : some (name, value) = some (name', value') := by
    rw [← readPiece?_eq_some_iff.mpr h, readPiece?_eq_some_iff.mpr h']
  simpa using heq

theorem Writes.mentions_iff (h : Writes piece name value) : Mentions piece n ↔ n = name := by
  constructor
  · rintro ⟨v, hv⟩
    exact (hv.unique h).1
  · rintro rfl
    exact ⟨value, h⟩

/-- Reading a piece sets the flag it writes, or passes it over. -/
theorem addPiece_cases (flags : Entries) (piece : String) :
    (∃ name value, Writes piece name value ∧
      addPiece flags piece.toList = set name value flags) ∨
    ((∀ name, ¬Mentions piece name) ∧ addPiece flags piece.toList = flags) := by
  unfold addPiece
  cases h : readPiece? piece.toList with
  | some f => exact .inl ⟨f.1, f.2, readPiece?_eq_some_iff.mp h, rfl⟩
  | none =>
    refine .inr ⟨?_, rfl⟩
    rintro name ⟨value, hwrites⟩
    rw [readPiece?_eq_some_iff.mpr hwrites] at h
    cases h

/-! ### One more piece -/

theorem writesLast_concat_iff :
    WritesLast (ps ++ [piece]) name value ↔
      Writes piece name value ∨ ¬Mentions piece name ∧ WritesLast ps name value := by
  constructor
  · rintro ⟨before, p, after, heq, hwrites, hafter⟩
    rcases List.eq_nil_or_concat after with rfl | ⟨after, q, rfl⟩
    · obtain ⟨rfl, hp⟩ := List.append_inj' heq rfl
      obtain rfl : piece = p := by simpa using hp
      exact .inl hwrites
    · have hsplit : ps ++ [piece] = (before ++ p :: after) ++ [q] := by simpa using heq
      obtain ⟨rfl, hq⟩ := List.append_inj' hsplit rfl
      obtain rfl : piece = q := by simpa using hq
      exact .inr ⟨hafter piece (by simp), before, p, after, rfl, hwrites,
        fun r hr => hafter r (by simp [hr])⟩
  · rintro (hwrites | ⟨hpiece, before, p, after, rfl, hwrites, hafter⟩)
    · exact ⟨ps, piece, [], rfl, hwrites, by simp⟩
    · refine ⟨before, p, after ++ [piece], by simp, hwrites, ?_⟩
      intro q hq
      rcases List.mem_append.mp hq with hq | hq
      · exact hafter q hq
      · rw [List.mem_singleton.mp hq]
        exact hpiece

theorem exists_writesLast (h : ∃ p ∈ ps, Mentions p name) : ∃ value, WritesLast ps name value := by
  induction ps using List.reverseRecOn with
  | nil => simp at h
  | append_singleton ps piece ih =>
    by_cases hpiece : Mentions piece name
    · obtain ⟨value, hwrites⟩ := hpiece
      exact ⟨value, writesLast_concat_iff.mpr (.inl hwrites)⟩
    · obtain ⟨p, hp, hmentions⟩ := h
      have hmem : p ∈ ps := by
        rcases List.mem_append.mp hp with hp | hp
        · exact hp
        · rw [List.mem_singleton.mp hp] at hmentions
          exact absurd hmentions hpiece
      obtain ⟨value, hlast⟩ := ih ⟨p, hmem, hmentions⟩
      exact ⟨value, writesLast_concat_iff.mpr (.inr ⟨hpiece, hlast⟩)⟩

theorem WritesLast.mentioned (h : WritesLast ps name value) : ∃ p ∈ ps, Mentions p name := by
  obtain ⟨before, p, after, rfl, hwrites, -⟩ := h
  exact ⟨p, by simp, value, hwrites⟩

theorem MentionedBefore.concat (h : MentionedBefore ps m n) (piece : String) :
    MentionedBefore (ps ++ [piece]) m n := by
  obtain ⟨before, hprefix, hm, hn⟩ := h
  exact ⟨before, hprefix.trans (List.prefix_append ps [piece]), hm, hn⟩

theorem MentionedBefore.asymm (h : MentionedBefore ps m n) : ¬MentionedBefore ps n m := by
  rintro ⟨before', hprefix', ⟨q, hq, hqn⟩, hm'⟩
  obtain ⟨before, hprefix, ⟨p, hp, hpm⟩, hn⟩ := h
  rcases List.prefix_or_prefix_of_prefix hprefix hprefix' with hle | hle
  · exact hm' p (hle.subset hp) hpm
  · exact hn q (hle.subset hq) hqn

/-! ### Tables -/

theorem tabulates_nil : Tabulates [] [] where
  mem_iff name value := by simp [WritesLast]
  ordered := .nil

namespace Tabulates

theorem mem_names_iff (h : Tabulates flags ps) :
    name ∈ names flags ↔ ∃ p ∈ ps, Mentions p name := by
  constructor
  · intro hmem
    obtain ⟨f, hf, rfl⟩ := List.mem_map.mp hmem
    exact ((h.mem_iff f.1 f.2).mp hf).mentioned
  · intro hmentioned
    obtain ⟨value, hlast⟩ := exists_writesLast hmentioned
    exact List.mem_map.mpr ⟨(name, value), (h.mem_iff name value).mpr hlast, rfl⟩

theorem nodup_names (h : Tabulates flags ps) : (names flags).Nodup :=
  h.ordered.imp fun hbefore heq => by
    subst heq
    exact hbefore.asymm hbefore

theorem unique {flags' : Entries} (h : Tabulates flags ps) (h' : Tabulates flags' ps) :
    flags = flags' := by
  have hperm : flags.Perm flags' := by
    refine (List.perm_ext_iff_of_nodup (.of_map _ h.nodup_names) (.of_map _ h'.nodup_names)).mpr ?_
    rintro ⟨name, value⟩
    rw [h.mem_iff, h'.mem_iff]
  refine hperm.eq_of_pairwise ?_ (List.pairwise_map.mp h.ordered) (List.pairwise_map.mp h'.ordered)
  intro f g _ _ hfg hgf
  exact absurd hgf hfg.asymm

theorem concat_of_not_mentions (h : Tabulates flags ps) (hpiece : ∀ name, ¬Mentions piece name) :
    Tabulates flags (ps ++ [piece]) where
  mem_iff name value := by
    have hnot : ¬Writes piece name value := fun hwrites => hpiece name ⟨value, hwrites⟩
    rw [writesLast_concat_iff, h.mem_iff]
    simp [hpiece, hnot]
  ordered := h.ordered.imp fun hbefore => hbefore.concat piece

end Tabulates

theorem mem_set_iff {v : String} (h : (names flags).Nodup) :
    (n, v) ∈ set name value flags ↔ n = name ∧ v = value ∨ n ≠ name ∧ (n, v) ∈ flags := by
  induction flags with
  | nil => simp [set]
  | cons f rest ih =>
    obtain ⟨n', v'⟩ := f
    obtain ⟨hhead, hrest⟩ := List.nodup_cons.mp h
    rw [set]
    split
    · rename_i heq
      subst heq
      have hne : (n, v) ∈ rest → n ≠ n' := by
        rintro hmem rfl
        exact hhead (List.mem_map.mpr ⟨(n, v), hmem, rfl⟩)
      simp only [List.mem_cons, Prod.mk.injEq]
      tauto
    · rename_i hne
      simp only [List.mem_cons, Prod.mk.injEq, ih hrest]
      constructor
      · rintro (⟨rfl, rfl⟩ | hset | ⟨hn, hmem⟩)
        · exact .inr ⟨hne, .inl ⟨rfl, rfl⟩⟩
        · exact .inl hset
        · exact .inr ⟨hn, .inr hmem⟩
      · rintro (hset | ⟨hn, hhd | hmem⟩)
        · exact .inr (.inl hset)
        · exact .inl hhd
        · exact .inr (.inr ⟨hn, hmem⟩)

namespace Tabulates

/-- A piece that writes a value overwrites its flag, or adds it behind all others. -/
theorem concat_of_writes (h : Tabulates flags ps) (hwrites : Writes piece name value) :
    Tabulates (set name value flags) (ps ++ [piece]) where
  mem_iff n v := by
    rw [mem_set_iff h.nodup_names, writesLast_concat_iff, hwrites.mentions_iff, h.mem_iff]
    refine or_congr_left ⟨?_, fun hpiece => hpiece.unique hwrites⟩
    rintro ⟨rfl, rfl⟩
    exact hwrites
  ordered := by
    have hkept : (names flags).Pairwise (MentionedBefore (ps ++ [piece])) :=
      h.ordered.imp fun hbefore => hbefore.concat piece
    rw [names_set]
    split
    · exact hkept
    · rename_i hnew
      refine List.pairwise_append.mpr ⟨hkept, List.pairwise_singleton _ _, ?_⟩
      intro m hm n hn
      rw [List.mem_singleton.mp hn]
      refine ⟨ps, List.prefix_append ps [piece], h.mem_names_iff.mp hm, ?_⟩
      intro q hq hmentions
      exact hnew (h.mem_names_iff.mpr ⟨q, hq, hmentions⟩)

theorem concat (h : Tabulates flags ps) (piece : String) :
    Tabulates (addPiece flags piece.toList) (ps ++ [piece]) := by
  obtain ⟨name, value, hwrites, heq⟩ | ⟨hnone, heq⟩ := addPiece_cases flags piece
  · rw [heq]
    exact h.concat_of_writes hwrites
  · rw [heq]
    exact h.concat_of_not_mentions hnone

/-- Reading piece after piece keeps the table of what was read. -/
theorem foldl (h : Tabulates flags ps) (qs : List String) :
    Tabulates (qs.foldl (fun flags piece => addPiece flags piece.toList) flags) (ps ++ qs) := by
  induction qs generalizing flags ps with
  | nil => simpa using h
  | cons q qs ih =>
    rw [List.append_cons]
    exact ih (h.concat q)

end Tabulates

/-! ### Texts -/

/-- Empty pieces are passed over in any case. -/
theorem decode_eq_foldl (packed : String) :
    decode packed = (split entrySeparator packed).foldl
      (fun flags piece => addPiece flags piece.toList) [] := by
  have hempty : ∀ (flags : Entries) (w : List Char),
      (if (!w.isEmpty) = true then addPiece flags w else flags) = addPiece flags w := by
    intro flags w
    cases w <;> rfl
  rw [decode, pieces, List.foldl_filter, split, List.foldl_map]
  simp only [hempty, String.toList_ofList]

theorem tabulates_decode (packed : String) :
    Tabulates (decode packed) (split entrySeparator packed) := by
  rw [decode_eq_foldl]
  exact tabulates_nil.foldl _

/-- A list of flags survives packing if and only if its names are distinct and free of separators
and no value ends its piece. Whatever a text says, reading it finds the names that are mentioned, in
the order of first mention and each with the value written last. What is found survives packing. -/
theorem decode_exact :
    (∀ flags : Entries, decode (encode flags) = flags ↔ IsNormal flags) ∧
    ∀ packed : String,
      (∀ flags, decode packed = flags ↔ Tabulates flags (split entrySeparator packed)) ∧
      IsNormal (decode packed) ∧ decode (encode (decode packed)) = decode packed := by
  refine ⟨fun flags => ⟨fun h => ?_, decode_encode⟩, fun packed => ⟨fun flags => ⟨?_, ?_⟩, ?_, ?_⟩⟩
  · rw [← h]
    exact isNormal_decode _
  · rintro rfl
    exact tabulates_decode packed
  · exact fun h => (tabulates_decode packed).unique h
  · exact isNormal_decode packed
  · exact decode_encode (isNormal_decode packed)

example : decode ";a:1;junk;:x;b:y:z;a:" = [("a", ""), ("", "x"), ("b", "y:z")] := by
  decide

end Colloquy.Flag
