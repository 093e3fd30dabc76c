import Typewright.Proofs.Entries
import Typewright.Proofs.FileTree.Places
import Typewright.Proofs.Text.Utf8
import Typewright.Source

/-!
# How loading a document ends

A document is read from one channel (`Chosen`). Loading it is meant to end with an object that is a
data model or holds one, or with a failure that is documented (`EndsAsDocumented`). But some steps
on the way fail in ways that are not caught: looking at a path, decoding octets, reading a value
that exceeds a limit, and reading an authority. `Unforeseen` tells for each channel what leads to
such a failure and to which one, and loading ends as documented exactly if there is none
(`loadDocument_endsAsDocumented_iff`).
-/

namespace Typewright

/-! ## Ends that are documented -/

/-- An object that is a data model, or that carries one. -/
inductive Value.HoldsDatamodel : Value → Prop where
  | itself {es : Entries} (bare : es.get? "datamodel" = none) (models : es.has "models") :
      HoldsDatamodel (.object es)
  | carried {es fs : Entries} (carries : es.get? "datamodel" = some (.object fs))
      (models : fs.has "models") : HoldsDatamodel (.object es)

namespace Source

/-- Whether a failure is documented: a missing file, or one in the words of the loader. -/
def IsDocumented : LoadFailure → Prop
  | .inaccessible _ => False
  | .undecodable => False
  | .overLimit _ => False
  | .unreadableUrl => False
  | _ => True

/-- Whether loading ends with a document or with a failure that is documented. -/
def EndsAsDocumented : Except LoadFailure Loaded → Prop
  | .ok l => l.data.HoldsDatamodel
  | .error f => IsDocumented f

theorem hasModels_iff {es : Entries} :
    hasModels (es.getD "datamodel" (.object es)) = true ↔ (Value.object es).HoldsDatamodel := by
  rw [Entries.getD]
  constructor
  · intro models
    cases carries : es.get? "datamodel" with
    | none =>
        rw [carries] at models
        exact .itself carries models
    | some v =>
        rw [carries, Option.getD_some] at models
        cases v with
        | object fs => exact .carried carries models
        | null | bool _ | int _ | double _ | str _ | list _ => cases models
  · rintro (⟨bare, models⟩ | ⟨carries, models⟩)
    · rw [bare]
      exact models
    · rw [carries]
      exact models

/-- What is required of a document is that it holds a data model; what does not is told. -/
theorem endsAsDocumented_requireDatamodel (l : Loaded) :
    EndsAsDocumented (requireDatamodel l) := by
  rw [requireDatamodel]
  split
  next es object =>
    split_ifs with models
    · rw [object] at models
      rw [EndsAsDocumented, object]
      exact hasModels_iff.1 models
    · trivial
  · trivial

/-! ## Channels -/

/-- What a document is read from. -/
inductive Channel where
  | file (path : Path)
  | address (url : String)
  /-- Standard input. -/
  | input

/-- The channel that is asked for, by the text of a path, an address or a flag. What is asked for
otherwise is no channel, or more than one. -/
inductive Chosen : String → String → Bool → Channel → Prop where
  | file {text : String} (given : text ≠ "") : Chosen text "" false (.file (Path.ofString text))
  | address {url : String} (given : url ≠ "") : Chosen "" url false (.address url)
  | input : Chosen "" "" true .input

/-- The value that a channel gives. -/
def loadChannel (s : Surroundings) : Channel → Except LoadFailure Loaded
  | .file path => loadFile s path
  | .address url => loadUrl s url
  | .input => loadInput s

variable {s : Surroundings} {file url : String} {fromInput : Bool} {channel : Channel}
  {f : LoadFailure}

theorem loadDocument_of_chosen (h : Chosen file url fromInput channel) :
    loadDocument s file url fromInput = loadChannel s channel >>= requireDatamodel := by
  cases h with
  | file given => simp [loadDocument, load, given, loadChannel]
  | address given => simp [loadDocument, load, given, loadChannel]
  | input => simp [loadDocument, loadChannel]

/-- Without a channel there is a failure that is documented. -/
theorem endsAsDocumented_of_not_chosen (h : ∀ channel, ¬ Chosen file url fromInput channel) :
    EndsAsDocumented (loadDocument s file url fromInput) := by
  cases fromInput with
  | true =>
      by_cases alone : file = "" ∧ url = ""
      · obtain ⟨rfl, rfl⟩ := alone
        exact absurd .input (h _)
      · rw [loadDocument, if_pos rfl, if_pos (not_and_or.1 alone)]
        trivial
  | false =>
      rw [loadDocument, if_neg Bool.false_ne_true]
      obtain rfl | hasFile := eq_or_ne file ""
      · obtain rfl | hasUrl := eq_or_ne url ""
        · trivial
        · exact absurd (.address hasUrl) (h _)
      · obtain rfl | hasUrl := eq_or_ne url ""
        · exact absurd (.file hasFile) (h _)
        · rw [load, if_neg fun none => hasFile none.1, if_pos ⟨hasFile, hasUrl⟩]
          trivial

/-! ## What is not foreseen -/

/-- What a channel gives that no caller foresees, and the failure that it leads to. -/
inductive Unforeseen (s : Surroundings) : Channel → LoadFailure → Prop where
  /-- The path of the file is too long. -/
  | path {p : Path} (sound : p.misuse? s.halves = none) (long : s.tree.TooLong s.directory p) :
      Unforeseen s (.file p) (.inaccessible ⟨.nameTooLong, p.text, none⟩)
  /-- The octets of the file are those of no text. -/
  | octets {p : Path} {content : List UInt8} (sound : p.misuse? s.halves = none)
      (read : s.tree.read s.directory p = .ok content)
      (foreign : ∀ text, Text.encode text ≠ content) : Unforeseen s (.file p) .undecodable
  /-- The text of the file exceeds a limit. -/
  | fileLimit {p : Path} {text : String} {limit : Json.Limit} (sound : p.misuse? s.halves = none)
      (read : s.tree.read s.directory p = .ok (Text.encode text))
      (exceeds : Json.ofText s.fileReader (Text.unifyLineEnds text.toList) =
        .error (.overLimit limit)) :
      Unforeseen s (.file p) (.overLimit limit)
  /-- The authority of the address cannot be read. -/
  | authority {url : String} (odd : Url.read url = .unreadable) :
      Unforeseen s (.address url) .unreadableUrl
  /-- The content of an answer has too many lists and objects inside each other. -/
  | answerDepth {url : String} {container : Json.Container} (complete : Url.read url = .complete)
      (answers : s.reply url = .answer (.deep container)) :
      Unforeseen s (.address url) (.overLimit (.depth container))
  /-- The text of standard input exceeds a limit. -/
  | inputLimit {limit : Json.Limit}
      (exceeds : Json.ofText s.inputReader s.input.toList = .error (.overLimit limit)) :
      Unforeseen s .input (.overLimit limit)

theorem Unforeseen.not_isDocumented (h : Unforeseen s channel f) : ¬ IsDocumented f := by
  cases h <;> exact id

/-! ### Octets of files -/

theorem ofOctets_eq_undecodable {reader : Json.Reader} {bs : List UInt8} :
    Json.ofOctets reader bs = .error .undecodable ↔ ∀ text, Text.encode text ≠ bs := by
  rw [← Text.decode?_eq_none_iff, Json.ofOctets]
  cases Text.decode? bs with
  | none => simp
  | some cs => cases read : Json.ofText reader (Text.unifyLineEnds cs) <;> simp [read]

theorem ofOctets_eq_overLimit {reader : Json.Reader} {bs : List UInt8} {limit : Json.Limit} :
    Json.ofOctets reader bs = .error (.text (.overLimit limit)) ↔ ∃ text, Text.encode text = bs ∧
      Json.ofText reader (Text.unifyLineEnds text.toList) = .error (.overLimit limit) := by
  constructor
  · intro h
    rw [Json.ofOctets] at h
    split at h
    · cases h
    next cs decoded =>
      refine ⟨String.ofList cs, Text.encode_of_decode? decoded, ?_⟩
      rw [String.toList_ofList]
      split at h
      · cases h
      next r read =>
        cases h
        exact read
  · rintro ⟨text, rfl, exceeds⟩
    rw [Json.ofOctets, Text.decode?_encode]
    dsimp only
    rw [exceeds]

/-! ### Each channel -/

theorem loadFile_of_unforeseen {p : Path} (h : Unforeseen s (.file p) f) :
    loadFile s p = .error f := by
  cases h with
  | path sound long => rw [loadFile, FileTree.pathExists_eq_error.2 ⟨sound, long, rfl⟩]
  | octets sound read foreign =>
      rw [loadFile, FileTree.pathExists_of_read sound read, read]
      simp only [ofOctets_eq_undecodable.2 foreign]
  | fileLimit sound read exceeds =>
      rw [loadFile, FileTree.pathExists_of_read sound read, read]
      simp only [ofOctets_eq_overLimit.2 ⟨_, rfl, exceeds⟩]

theorem unforeseen_of_loadFile {p : Path} (h : loadFile s p = .error f) (odd : ¬ IsDocumented f) :
    Unforeseen s (.file p) f := by
  rw [loadFile] at h
  split at h
  next e unknown =>
    cases h
    obtain ⟨sound, long, rfl⟩ := FileTree.pathExists_eq_error.1 unknown
    exact .path sound long
  · cases h
    exact absurd trivial odd
  next there =>
    have sound := FileTree.misuse?_of_pathExists there
    split at h
    · cases h
      exact absurd trivial odd
    next content read =>
      split at h
      · cases h
      next foreign =>
        cases h
        exact .octets sound read (ofOctets_eq_undecodable.1 foreign)
      · cases h
        exact absurd trivial odd
      next limit exceeds =>
        cases h
        obtain ⟨text, rfl, refused⟩ := ofOctets_eq_overLimit.1 exceeds
        exact .fileLimit sound read refused

theorem loadUrl_of_unforeseen (h : Unforeseen s (.address url) f) : loadUrl s url = .error f := by
  cases h with
  | authority odd => rw [loadUrl, odd]
  | answerDepth complete answers =>
      rw [loadUrl, complete, answers]
      rfl

theorem unforeseen_of_loadUrl (h : loadUrl s url = .error f) (odd : ¬ IsDocumented f) :
    Unforeseen s (.address url) f := by
  rw [loadUrl] at h
  split at h
  next unreadable =>
    cases h
    exact .authority unreadable
  · cases h
    exact absurd trivial odd
  next complete =>
    cases answers : s.reply url with
    | timeout | noConnection | failed _ | garbled _ | status _ =>
        rw [answers] at h
        cases h
        exact absurd trivial odd
    | answer content =>
        rw [answers] at h
        cases content with
        | value v => cases h
        | malformed message | refused message =>
            cases h
            exact absurd trivial odd
        | deep container =>
            cases h
            exact .answerDepth complete answers

theorem loadInput_of_unforeseen (h : Unforeseen s .input f) : loadInput s = .error f := by
  cases h with
  | inputLimit exceeds => rw [loadInput, exceeds]

theorem unforeseen_of_loadInput (h : loadInput s = .error f) (odd : ¬ IsDocumented f) :
    Unforeseen s .input f := by
  rw [loadInput] at h
  split at h
  · cases h
  · cases h
    exact absurd trivial odd
  next limit exceeds =>
    cases h
    exact .inputLimit exceeds

theorem loadChannel_of_unforeseen (h : Unforeseen s channel f) :
    loadChannel s channel = .error f := by
  cases channel with
  | file p => exact loadFile_of_unforeseen h
  | address url => exact loadUrl_of_unforeseen h
  | input => exact loadInput_of_unforeseen h

theorem unforeseen_of_loadChannel (h : loadChannel s channel = .error f)
    (odd : ¬ IsDocumented f) : Unforeseen s channel f := by
  cases channel with
  | file p => exact unforeseen_of_loadFile h odd
  | address url => exact unforeseen_of_loadUrl h odd
  | input => exact unforeseen_of_loadInput h odd

/-! ## How loading ends -/

/-- What is not foreseen is not caught either. -/
theorem loadDocument_of_unforeseen (chosen : Chosen file url fromInput channel)
    (h : Unforeseen s channel f) : loadDocument s file url fromInput = .error f := by
  rw [loadDocument_of_chosen chosen, loadChannel_of_unforeseen h]
  rfl

/-- Loading ends with a document or with a failure that is documented exactly if nothing comes up
that is not foreseen. Otherwise it ends with the failure that this leads to. -/
theorem loadDocument_endsAsDocumented_iff (s : Surroundings) (file url : String)
    (fromInput : Bool) :
    (EndsAsDocumented (loadDocument s file url fromInput) ↔
      ∀ channel f, Chosen file url fromInput channel → ¬ Unforeseen s channel f) ∧
    ∀ channel f, Chosen file url fromInput channel → Unforeseen s channel f →
      loadDocument s file url fromInput = .error f ∧ ¬ IsDocumented f := by
  refine ⟨⟨?_, ?_⟩, fun channel f chosen h =>
    ⟨loadDocument_of_unforeseen chosen h, h.not_isDocumented⟩⟩
  · intro ends channel f chosen h
    rw [loadDocument_of_unforeseen chosen h] at ends
    exact h.not_isDocumented ends
  · intro foreseen
    by_cases none : ∀ channel, ¬ Chosen file url fromInput channel
    · exact endsAsDocumented_of_not_chosen none
    obtain ⟨channel, chosen⟩ := not_forall_not.1 none
    rw [loadDocument_of_chosen chosen]
    cases loaded : loadChannel s channel with
    | ok l => exact endsAsDocumented_requireDatamodel l
    | error f =>
        by_contra odd
        exact foreseen channel f chosen (unforeseen_of_loadChannel loaded odd)

/-- A directory with one file, whose octet no text has. -/
def garbled : Surroundings where
  tree := (FileTree.empty.put ["work"] .directory).put ["work", "d.json"] (.file [0xFF])
  directory := ["work"]
  input := ""
  reply _ := .noConnection
  halves := .far
  configDepth := 990
  fileDepth := 990
  inputDepth := 990

/-- Neither octets that are no text nor an authority that cannot be read are told as documented. -/
theorem garbled_escapes :
    loadDocument garbled "d.json" "" false = .error .undecodable ∧
      ¬ EndsAsDocumented (loadDocument garbled "d.json" "" false) ∧
      loadDocument garbled "" "http://[::1" false = .error .unreadableUrl ∧
      ¬ EndsAsDocumented (loadDocument garbled "" "http://[::1" false) := by
  have foreign : ∀ text, Text.encode text ≠ [0xFF] := by
    rw [← Text.decode?_eq_none_iff]
    simp [Text.decode?, Text.units, Text.unit]
  have file : loadDocument garbled "d.json" "" false = .error .undecodable :=
    loadDocument_of_unforeseen (.file (by decide)) (.octets (by decide) rfl foreign)
  have address : loadDocument garbled "" "http://[::1" false = .error .unreadableUrl :=
    loadDocument_of_unforeseen (.address (by decide)) (.authority (by decide))
  rw [file, address]
  exact ⟨rfl, id, rfl, id⟩

end Source

end Typewright
