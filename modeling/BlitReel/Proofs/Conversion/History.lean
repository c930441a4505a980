import Mathlib
import BlitReel.Proofs.Conversion.Footprint
import BlitReel.Proofs.Manifest.Document

/-!
# Conversions into one directory, one after the other

A conversion that succeeds puts all its frames and its manifest into the directory. One that fails leaves
the manifest of an earlier one but may have written over frames that this manifest lists. `Harmless` says
that it has not, and `each_consistent_iff` that this is all that can go wrong: after each call a manifest that
can be read lists the frames of its author, exactly if every failed conversion was harmless.
-/

namespace BlitReel.Conversion

/-- A conversion: what it finds around it, its source and options, and the moves that it takes. -/
structure Call where
  conditions : Conditions
  source : Source
  options : ConversionOptions
  moves : List Run.Move

namespace Call

/-- How the conversion goes on a tree. -/
def outcome (k : Call) (t : FileTree) : Outcome := convertAlong k.conditions t k.source k.options k.moves

/-- What the conversion leaves in the files of frames, one write after the other. -/
def writes (k : Call) (t : FileTree) : List (Int64 × Octets) :=
  match begin k.conditions t k.source k.options with
  | (_, .error _) => []
  | (_, .ok r) => r.log k.moves

/-- The number of frames. -/
def count (k : Call) : Nat := frameCount k.source.content k.options

/-- The encoding of the frame number `i`, counted from zero. -/
def encoding (k : Call) (i : Nat) : Except Frame.EncodeFault Frame :=
  Frame.encode (frame k.source.content k.options i) k.options.geometry k.options.palette

/-- The manifest that lists all frames. -/
def manifest (k : Call) : Manifest := fullManifest k.source.content k.options

/-- The conversion goes into a directory and comes to its end, and its frames can be counted. -/
structure Into (k : Call) (dir : Octets) (t : FileTree) : Prop where
  place : k.options.outputDir = dir
  finished : finishes k.conditions t k.source k.options k.moves = true
  small : k.count < 2 ^ 63

/-- The manifest in the directory is the document that the conversion wrote. -/
def Wrote (k : Call) (dir : Octets) (t : FileTree) : Prop :=
  ∃ j, k.manifest.toJson = .ok j ∧ t.content (Path.join [dir, Manifest.fileName]) = .ok (Octets.ofString j.indented)

variable {k : Call} {dir : Octets} {t : FileTree}

/-- Encodings have the size that the manifest gives. -/
theorem encoding_size (sound : k.options.Sound) {i : Nat} (hi : i < k.count) {f : Frame}
    (encoded : k.encoding i = .ok f) :
    f.width = k.manifest.width ∧ f.height = k.manifest.height := by
  obtain ⟨f', encoded', shaped, -⟩ := Frame.encode_ok sound.geometry (Palette.ne_nil_of_check sound.palette)
    (RawFrame.length_ofStream hi)
  obtain rfl : f = f' := by simpa [encoding, frame, encoded'] using encoded.symm
  exact ⟨shaped.width, shaped.height⟩

/-- A conversion that succeeds returns its manifest and leaves it with all its frames. -/
theorem outcome_ok (into : k.Into dir t) {res : Result} (success : (k.outcome t).result = .ok res) :
    k.options.Sound ∧ res.manifest = k.manifest ∧ k.Wrote dir (k.outcome t).tree ∧ ∀ i < k.count, ∃ f, k.encoding i = .ok f ∧
      (k.outcome t).tree.content (k.options.framePath (Int64.ofNat (i + 1))) = .ok f.text := by
  have finished := into.finished
  rw [outcome, convertAlong] at success ⊢
  rw [finishes] at finished
  rcases begin_cases k.conditions t k.source k.options with ⟨tree, f, fails, -, -⟩ | ⟨tree, begins, -, sound⟩
  · rw [fails] at success
    cases success
  · rw [begins] at success finished ⊢
    have h := (invariant_start k.conditions sound tree k.source).steps sound k.moves
    obtain ⟨same, -, -, wrote, frames⟩ := conclude_ok k.conditions k.source.exit sound h finished into.small success
    rw [ConversionOptions.manifestPath, into.place] at wrote
    exact ⟨sound, same, wrote, frames⟩

/-- A file of a frame holds what was written into it, and what it held before if nothing was. -/
theorem outcome_frames (closed : t.Closed) (into : k.Into dir t) :
    (∀ index octets, (index, octets) ∈ k.writes t →
        (k.outcome t).tree.content (k.options.framePath index) = .ok octets) ∧
      ∀ index, (∀ octets, (index, octets) ∉ k.writes t) → ∀ data,
        (k.outcome t).tree.content (k.options.framePath index) = .ok data ↔
          t.content (k.options.framePath index) = .ok data := by
  have straight (sound : k.options.Sound) (index : Int64) :
      FileTree.Straight (Path.components (k.options.framePath index)) :=
    FileTree.straight_join (Run.framesDir_ne_nil sound.outputDir) (Frame.plain_fileName index)
  rw [outcome, writes, convertAlong]
  rcases begin_cases k.conditions t k.source k.options with ⟨tree, f, fails, grows, same⟩ | ⟨tree, begins, grows, sound⟩
  · rw [fails]
    refine ⟨by simp, fun index _ data => ?_⟩
    rcases same with rfl | sound
    · exact Iff.rfl
    · exact grows.content_iff closed (straight sound index)
  · rw [begins]
    dsimp only
    have h := (invariant_start k.conditions sound tree k.source).steps sound k.moves
    rw [List.nil_append] at h
    have kept := conclude_frame_iff k.conditions k.source.exit (h.given sound)
    have current := h.disk.current (h.once (lt_of_le_of_lt (Nat.div_le_div_right h.length_seen_le) into.small))
    have untouched := h.disk.content_iff (h.given sound)
    rw [h.options] at kept current untouched
    refine ⟨fun index octets mem => (kept index octets).2 (current (index, octets) mem), fun index unwritten data => ?_⟩
    rw [kept, untouched index (by rintro e mem rfl; exact unwritten e.2 mem)]
    exact grows.content_iff closed (straight sound index)

/-- The manifest that was read is that of the conversion, and the files that it lists hold the encodings of the
frames of that conversion, each under a header line with the width and the height of the manifest. -/
structure Genuine (k : Call) (dir : Octets) (t : FileTree) (m : Manifest) : Prop where
  wrote : k.Wrote dir t
  frames : ∀ i name, m.frames[i]? = some name → ∃ f, k.encoding i = .ok f ∧
    t.content (Path.join [dir, m.framesBasePath, name]) = .ok f.text ∧
    Octets.ofInt m.width.toInt ++ 0x20 :: Octets.ofInt m.height.toInt ++ [0x0A] <+: f.text

/-- The directory holds the manifest of the conversion and something in each file that it lists. -/
structure Published (k : Call) (dir : Octets) (t : FileTree) : Prop where
  sound : k.options.Sound
  place : k.options.outputDir = dir
  small : k.count < 2 ^ 63
  wrote : k.Wrote dir t
  frames : ∀ i < k.count, ∃ data, t.content (k.options.framePath (Int64.ofNat (i + 1))) = .ok data

namespace Published

/-- The files of frames under the names that a manifest gives them. -/
theorem join_eq (h : k.Published dir t) (index : Int64) :
    Path.join [dir, Manifest.framesDir, Frame.fileName index] = k.options.framePath index := by
  rw [ConversionOptions.framePath, ConversionOptions.framesDir, Path.join_join h.sound.outputDir
    (by simpa using Manifest.plain_framesDir) (by simpa using Frame.plain_fileName index), h.place]
  rfl

/-- What is read from the manifest of a conversion depends on the conversion only. -/
theorem load_iff (h : k.Published dir t) {m : Manifest} : Manifest.load t dir = .ok m ↔
    ∃ fps, Manifest.reread? k.options.fps = some fps ∧ m = { k.manifest with fps, slug := k.options.slug.asText } := by
  obtain ⟨j, document, there⟩ := h.wrote
  have texts : k.manifest.frames.map Octets.asText = k.manifest.frames := by
    simp only [manifest, fullManifest, List.map_map, Function.comp_def, Frame.asText_fileName]
  have format : k.manifest.format.asText = k.manifest.format := Octets.asText_ofString _
  have base : k.manifest.framesBasePath.asText = k.manifest.framesBasePath := Octets.asText_ofString _
  rw [Manifest.load_document document there, Manifest.ofJson?_toJson document rfl, texts, format, base,
    Option.map_eq_some_iff]
  constructor
  · rintro ⟨⟨fps, read, rfl⟩, -⟩
    exact ⟨fps, read, rfl⟩
  · rintro ⟨fps, read, rfl⟩
    refine ⟨⟨fps, read, rfl⟩, rfl, ?_, fun name listed => ?_⟩
    · have size : (Int64.ofNat k.count).toInt = k.count := Int64.toInt_ofNat_of_lt h.small
      simpa [manifest, fullManifest, count] using size.symm
    · obtain ⟨i, hi, rfl⟩ := List.mem_map.1 listed
      obtain ⟨data, content⟩ := h.frames i (List.mem_range.1 hi)
      rw [← h.join_eq] at content
      obtain ⟨loc, executable, resolved, file⟩ := FileTree.content_eq_ok_iff.1 content
      exact ⟨_, FileTree.stat_eq_ok_iff.2 ⟨loc, resolved, file⟩⟩

theorem length_frames (h : k.Published dir t) {m : Manifest} (loaded : Manifest.load t dir = .ok m) :
    m.frames.length = k.count := by
  obtain ⟨fps, -, rfl⟩ := h.load_iff.1 loaded
  simp [manifest, fullManifest, count]

/-- A manifest read is genuine if all frames of the conversion are in their files. -/
theorem genuine_iff (h : k.Published dir t) {m : Manifest} (loaded : Manifest.load t dir = .ok m) :
    k.Genuine dir t m ↔ ∀ i < k.count, ∃ f, k.encoding i = .ok f ∧
      t.content (k.options.framePath (Int64.ofNat (i + 1))) = .ok f.text := by
  obtain ⟨fps, -, rfl⟩ := h.load_iff.1 loaded
  have listed (i : Nat) (name : Octets) : k.manifest.frames[i]? = some name ↔
      i < k.count ∧ Frame.fileName (Int64.ofNat (i + 1)) = name := by
    simp [manifest, fullManifest, List.getElem?_eq_some_iff, count]
  constructor
  · intro genuine i hi
    obtain ⟨f, encoded, content, -⟩ := genuine.frames i _ ((listed i _).2 ⟨hi, rfl⟩)
    rw [← h.join_eq]
    exact ⟨f, encoded, content⟩
  · refine fun frames => ⟨h.wrote, fun i name place => ?_⟩
    obtain ⟨hi, rfl⟩ := (listed i name).1 place
    obtain ⟨f, encoded, content⟩ := frames i hi
    rw [← h.join_eq] at content
    obtain ⟨width, height⟩ := encoding_size h.sound hi encoded
    have header : f.header <+: f.text := List.prefix_append _ _
    rw [Frame.header, width, height] at header
    exact ⟨f, encoded, content, header⟩

/-- Conversions into the same directory write to the same files. -/
theorem framePath_eq (h : k.Published dir t) {other : Call} (into : other.Into dir t) (index : Int64) :
    k.options.framePath index = other.options.framePath index := by
  simp only [ConversionOptions.framePath, ConversionOptions.framesDir, h.place, into.place]

/-- What is published stays published when another conversion fails. -/
theorem of_error (h : k.Published dir t) (closed : t.Closed) {other : Call} (into : other.Into dir t) {fault : Failure}
    (failure : (other.outcome t).result = .error fault) : k.Published dir (other.outcome t).tree := by
  obtain ⟨written, unwritten⟩ := outcome_frames closed into
  refine ⟨h.sound, h.place, h.small, ?_, fun i hi => ?_⟩
  · obtain ⟨j, document, there⟩ := h.wrote
    refine ⟨j, document, ?_⟩
    rw [← into.place] at there ⊢
    exact (convertAlong_manifest_iff closed (Links.hold_empty t) ⟨fault, failure⟩ (by simp [Shared]) _).2 there
  · rw [h.framePath_eq into]
    by_cases new : ∃ octets, (Int64.ofNat (i + 1), octets) ∈ other.writes t
    · obtain ⟨octets, mem⟩ := new
      exact ⟨octets, written _ octets mem⟩
    · obtain ⟨data, content⟩ := h.frames i hi
      rw [h.framePath_eq into] at content
      exact ⟨data, (unwritten _ (not_exists.1 new) data).2 content⟩

/-- A manifest stays genuine when another conversion fails, if that writes nothing else over its frames. -/
theorem genuine_iff_of_error (h : k.Published dir t) (closed : t.Closed) {other : Call} (into : other.Into dir t)
    {fault : Failure} (failure : (other.outcome t).result = .error fault) {m : Manifest}
    (loaded : Manifest.load t dir = .ok m) (before : k.Genuine dir t m) :
    k.Genuine dir (other.outcome t).tree m ↔ ∀ i < m.frames.length, ∀ octets,
      (Int64.ofNat (i + 1), octets) ∈ other.writes t → ∃ f, k.encoding i = .ok f ∧ octets = f.text := by
  have after := h.of_error closed into failure
  obtain ⟨written, unwritten⟩ := outcome_frames closed into
  rw [h.genuine_iff loaded] at before
  rw [after.genuine_iff (after.load_iff.2 (h.load_iff.1 loaded)), h.length_frames loaded]
  simp only [h.framePath_eq into] at before ⊢
  constructor
  · intro frames i hi octets mem
    obtain ⟨f, encoded, content⟩ := frames i hi
    rw [written _ octets mem, Except.ok.injEq] at content
    exact ⟨f, encoded, content⟩
  · intro harmless i hi
    by_cases new : ∃ octets, (Int64.ofNat (i + 1), octets) ∈ other.writes t
    · obtain ⟨octets, mem⟩ := new
      obtain ⟨f, encoded, rfl⟩ := harmless i hi octets mem
      exact ⟨f, encoded, written _ _ mem⟩
    · obtain ⟨f, encoded, content⟩ := before i hi
      exact ⟨f, encoded, (unwritten _ (not_exists.1 new) _).2 content⟩

end Published

/-- A conversion that succeeds has published its manifest. -/
theorem published_of_ok (into : k.Into dir t) {res : Result} (success : (k.outcome t).result = .ok res) :
    k.Published dir (k.outcome t).tree := by
  obtain ⟨sound, -, wrote, frames⟩ := outcome_ok into success
  refine ⟨sound, into.place, into.small, wrote, fun i hi => ?_⟩
  obtain ⟨f, -, content⟩ := frames i hi
  exact ⟨f.text, content⟩

end Call

/-- A disk and the conversion that wrote the manifest on it. -/
structure Signed where
  tree : FileTree
  author? : Option Call := none

namespace Signed

/-- A conversion runs; if it succeeds then the manifest is its own. -/
def call (d : Signed) (k : Call) : Signed where
  tree := (k.outcome d.tree).tree
  author? := if (k.outcome d.tree).result.isOk then some k else d.author?

/-- Something holds at each of the calls, where it is made. -/
def Each (P : Signed → Call → Prop) (d : Signed) : List Call → Prop
  | [] => True
  | k :: calls => P d k ∧ (d.call k).Each P calls

/-- A client that can read the manifest of the directory finds the frames of its author. -/
def Consistent (dir : Octets) (d : Signed) : Prop :=
  ∀ m, Manifest.load d.tree dir = .ok m → ∃ k, d.author? = some k ∧ k.Genuine dir d.tree m

/-- If the conversion fails and a manifest can be read then, each listed frame that it has written over holds what
the author of the manifest had put there. -/
def Harmless (dir : Octets) (d : Signed) (k : Call) : Prop :=
  ∀ fault m a, (k.outcome d.tree).result = .error fault → Manifest.load (k.outcome d.tree).tree dir = .ok m →
    d.author? = some a → ∀ i < m.frames.length, ∀ octets, (Int64.ofNat (i + 1), octets) ∈ k.writes d.tree →
      ∃ f, a.encoding i = .ok f ∧ octets = f.text

/-- The disk is sound and the manifest on it is the one published by its author, or there is none. -/
structure Held (dir : Octets) (d : Signed) : Prop where
  closed : d.tree.Closed
  unsigned : d.author? = none → ∀ data, d.tree.content (Path.join [dir, Manifest.fileName]) ≠ .ok data
  signed : ∀ a, d.author? = some a → a.Published dir d.tree

variable {dir : Octets} {d : Signed} {k : Call}

theorem call_of_ok {res : Result} (success : (k.outcome d.tree).result = .ok res) :
    d.call k = ⟨(k.outcome d.tree).tree, some k⟩ := by
  rw [call, success]
  rfl

theorem call_of_error {fault : Failure} (failure : (k.outcome d.tree).result = .error fault) :
    d.call k = ⟨(k.outcome d.tree).tree, d.author?⟩ := by
  rw [call, failure]
  rfl

/-- The disk stays so through every call. -/
theorem Held.call (h : Held dir d) (into : k.Into dir d.tree) : Held dir (d.call k) := by
  have closed : (k.outcome d.tree).tree.Closed := convertAlong_closed h.closed k.moves
  cases result : (k.outcome d.tree).result with
  | ok res =>
    rw [call_of_ok result]
    refine ⟨closed, by simp, fun a author => ?_⟩
    cases author
    exact Call.published_of_ok into result
  | error fault =>
    rw [call_of_error result]
    refine ⟨closed, fun unsigned data => ?_, fun a author => (h.signed a author).of_error h.closed into result⟩
    have absent := h.unsigned unsigned data
    rw [← into.place] at absent ⊢
    have kept := convertAlong_manifest_iff h.closed (Links.hold_empty _) ⟨fault, result⟩ (by simp [Shared]) data
    exact fun there => absent (kept.1 there)

/-- Without a manifest there is nothing to be consistent with. -/
theorem Held.consistent_of_unsigned (h : Held dir d) (unsigned : d.author? = none) : Consistent dir d := by
  intro m loaded
  obtain ⟨data, j, there, -⟩ := Manifest.load_eq_ok_iff.1 loaded
  exact absurd there (h.unsigned unsigned data)

/-- A conversion that succeeds makes the directory consistent. -/
theorem consistent_of_ok (into : k.Into dir d.tree) {res : Result} (success : (k.outcome d.tree).result = .ok res) :
    Consistent dir (d.call k) := by
  rw [call_of_ok success]
  intro m loaded
  exact ⟨k, rfl, ((Call.published_of_ok into success).genuine_iff loaded).2 (Call.outcome_ok into success).2.2.2⟩

/-- A conversion keeps the directory consistent exactly if it is harmless. -/
theorem Held.consistent_call_iff (h : Held dir d) (before : Consistent dir d) (into : k.Into dir d.tree) :
    Consistent dir (d.call k) ↔ Harmless dir d k := by
  cases result : (k.outcome d.tree).result with
  | ok res =>
    refine iff_of_true (consistent_of_ok into result) fun fault m a failure => ?_
    rw [result] at failure
    cases failure
  | error fault =>
    have after := h.call into
    rw [call_of_error result] at after ⊢
    cases author : d.author? with
    | none =>
      rw [author] at after
      exact iff_of_true (after.consistent_of_unsigned rfl) fun _ _ _ _ _ signed => by simp [author] at signed
    | some a =>
      have published := h.signed a author
      have loads (m : Manifest) :
          Manifest.load (k.outcome d.tree).tree dir = .ok m ↔ Manifest.load d.tree dir = .ok m := by
        rw [(published.of_error h.closed into result).load_iff, published.load_iff]
      have genuine (m : Manifest) (loaded : Manifest.load d.tree dir = .ok m) : a.Genuine dir d.tree m := by
        obtain ⟨a', signed, genuine⟩ := before m loaded
        rw [author] at signed
        cases signed
        exact genuine
      constructor
      · intro consistent fault' m a' failure loaded signed
        rw [author] at signed
        cases signed
        obtain ⟨a', signed, holds⟩ := consistent m loaded
        cases signed
        have loaded := (loads m).1 loaded
        exact (published.genuine_iff_of_error h.closed into result loaded (genuine m loaded)).1 holds
      · intro harmless m loaded
        have before := (loads m).1 loaded
        refine ⟨a, rfl, (published.genuine_iff_of_error h.closed into result before (genuine m before)).2 ?_⟩
        exact harmless fault m a result loaded author

theorem Held.each_iff (h : Held dir d) (before : Consistent dir d) {calls : List Call}
    (into : Each (fun d k => k.Into dir d.tree) d calls) :
    Each (fun d k => Consistent dir (d.call k)) d calls ↔ Each (Harmless dir) d calls := by
  induction calls generalizing d with
  | nil => exact Iff.rfl
  | cons k calls ih =>
    have step := h.consistent_call_iff before into.1
    constructor
    · rintro ⟨after, rest⟩
      exact ⟨step.1 after, (ih (h.call into.1) after into.2).1 rest⟩
    · rintro ⟨harmless, rest⟩
      have after := step.2 harmless
      exact ⟨after, (ih (h.call into.1) after into.2).2 rest⟩

/-- Let conversions run into a directory without a manifest, one after the other. After each of them a manifest that
can be read is the one of the last conversion that succeeded, and the files that it lists hold the frames of that
conversion, under its width and height, exactly if each of the failed ones was harmless. -/
theorem each_consistent_iff (dir : Octets) (t : FileTree) (closed : t.Closed)
    (fresh : ∀ data, t.content (Path.join [dir, Manifest.fileName]) ≠ .ok data) (calls : List Call)
    (into : Each (fun d k => k.Into dir d.tree) ⟨t, none⟩ calls) :
    Each (fun d k => Consistent dir (d.call k)) ⟨t, none⟩ calls ↔ Each (Harmless dir) ⟨t, none⟩ calls := by
  have held : Held dir ⟨t, none⟩ := ⟨closed, fun _ => fresh, by simp⟩
  exact held.each_iff (held.consistent_of_unsigned rfl) into

/-- A frame of one red cell. -/
def narrowCall (exit : Except Failure Unit) : Call where
  conditions := calm
  source := { deliveries := [⟨[255, 0, 0], none⟩], exit }
  options := { outputDir := Octets.ofString "out", geometry := ⟨1, 1⟩, fps := 25 }
  moves := [.read, .launch, .read, .store 0 none, .report 0]

/-- A frame of a red and a black cell. -/
def wideCall (exit : Except Failure Unit) : Call where
  conditions := calm
  source := { deliveries := [⟨[255, 0, 0, 0, 0, 0], none⟩], exit }
  options := { outputDir := Octets.ofString "out", geometry := ⟨2, 1⟩, fps := 25 }
  moves := [.read, .launch, .read, .store 0 none, .report 0]

/-- The exit of a decoder that fails in the end. -/
def lateFailure : Except Failure Unit := .error (.plain "broken")

/-- An empty disk after a conversion to the wide grid. -/
def converted : Signed := Signed.call ⟨{}, none⟩ (wideCall (.ok ()))

theorem into_converted : (wideCall (.ok ())).Into (Octets.ofString "out") {} := ⟨rfl, by decide +kernel, by decide⟩

theorem author_converted : converted.author? = some (wideCall (.ok ())) := by
  rw [converted, call, if_pos (by decide +kernel)]

theorem load_rerun : (Manifest.load (converted.call (wideCall lateFailure)).tree (Octets.ofString "out")).toOption.map
    (·.frames.length) = some 1 := by
  decide +kernel

/-- The same video again, with a decoder that fails in the end: the frame is written over with itself. -/
theorem harmless_rerun : Harmless (Octets.ofString "out") converted (wideCall lateFailure) := by
  intro fault m a _ loaded author i hi octets mem
  have length := load_rerun
  have writes : (wideCall lateFailure).writes converted.tree = [(1, Frame.text ⟨2, 1, [Octets.ofString "ef"]⟩)] := by
    decide +kernel
  rw [author_converted] at author
  cases author
  rw [call, loaded, Except.toOption, Option.map_some, Option.some.injEq] at length
  obtain rfl : i = 0 := by omega
  rw [writes] at mem
  exact ⟨_, by decide +kernel, (Prod.mk.inj (List.mem_singleton.1 mem)).2⟩

theorem each_consistent_iff_rerun :
    Each (fun d k => k.Into (Octets.ofString "out") d.tree) ⟨{}, none⟩ [wideCall (.ok ()), wideCall lateFailure] ∧
      (Manifest.load (converted.call (wideCall lateFailure)).tree (Octets.ofString "out")).toOption.map
        (·.frames.length) = some 1 ∧
      Each (fun d k => Consistent (Octets.ofString "out") (d.call k)) ⟨{}, none⟩
        [wideCall (.ok ()), wideCall lateFailure] := by
  have closed : FileTree.Closed {} := FileTree.closed_of_entries (by simp)
  have absent : (FileTree.content {} (Path.join [Octets.ofString "out", Manifest.fileName])).isOk = false := by
    decide +kernel
  have success : ((wideCall (.ok ())).outcome {}).result.isOk = true := by decide +kernel
  have into : Each (fun d k => k.Into (Octets.ofString "out") d.tree) ⟨{}, none⟩
      [wideCall (.ok ()), wideCall lateFailure] :=
    ⟨into_converted, ⟨rfl, by decide +kernel, by decide⟩, trivial⟩
  refine ⟨into, load_rerun,
    (each_consistent_iff _ {} closed (fun data there => ?_) _ into).2 ⟨?_, harmless_rerun, trivial⟩⟩
  · rw [there] at absent
    cases absent
  · intro fault m a failure
    rw [failure] at success
    cases success

/-- Another video, with a decoder that fails after the first frame: the manifest of the wide grid now lists a frame of
one cell. -/
theorem converted_overwritten :
    Each (fun d k => k.Into (Octets.ofString "out") d.tree) ⟨{}, none⟩ [wideCall (.ok ()), narrowCall lateFailure] ∧
      ((Manifest.load (converted.call (narrowCall lateFailure)).tree (Octets.ofString "out")).toOption.map fun m =>
        (m.width, m.height, m.framesBasePath, m.frames)) = some (2, 1, Manifest.framesDir, [Frame.fileName 1]) ∧
      (converted.call (narrowCall lateFailure)).tree.content
        (Path.join [Octets.ofString "out", Manifest.framesDir, Frame.fileName 1]) = .ok (Octets.ofString "1 1\ne") ∧
      ¬ Consistent (Octets.ofString "out") (converted.call (narrowCall lateFailure)) := by
  have read : ((Manifest.load (converted.call (narrowCall lateFailure)).tree
      (Octets.ofString "out")).toOption.map fun m => (m.width, m.height, m.framesBasePath, m.frames)) = some (2, 1, Manifest.framesDir, [Frame.fileName 1]) := by
    decide +kernel
  have content : (converted.call (narrowCall lateFailure)).tree.content
      (Path.join [Octets.ofString "out", Manifest.framesDir, Frame.fileName 1]) = .ok (Octets.ofString "1 1\ne") := by
    decide +kernel
  refine ⟨⟨into_converted, ⟨rfl, by decide +kernel, by decide⟩, trivial⟩, read, content, fun consistent => ?_⟩
  cases loaded : Manifest.load (converted.call (narrowCall lateFailure)).tree (Octets.ofString "out") with
  | error f =>
    rw [loaded] at read
    cases read
  | ok m =>
    rw [loaded] at read
    simp only [Except.toOption, Option.map_some, Option.some.injEq, Prod.mk.injEq] at read
    obtain ⟨width, height, base, frames⟩ := read
    obtain ⟨a, -, genuine⟩ := consistent m loaded
    obtain ⟨f, -, text, header⟩ := genuine.frames 0 (Frame.fileName 1) (by rw [frames]; rfl)
    rw [base, content, Except.ok.injEq] at text
    rw [width, height, ← text] at header
    exact absurd header (by decide)

end Signed

end BlitReel.Conversion
