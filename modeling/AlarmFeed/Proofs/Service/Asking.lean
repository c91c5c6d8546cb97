/-
**A request with one header.**

`asking remote target caller` is a `GET` that brings a caller's token in an authorization header, and nothing
else. Its first line is read the same whatever stands behind it (`read_line`), and a printable token
without spaces around it passes through the header as it is (`readHeaders_bearer`), unless the value of
the header is too long.

* `read_asking` — so if the request can be read without the header, it is read with the header as the
  same head with that header;
* `read_asking_tooLong` — and a value that is too long is refused;
* `Brings.bearer_eq` — the bearer of a head that brings a token is that token (`ofHeader_bearer`).
-/

import AlarmFeed.Proofs.Service.Answer
import AlarmFeed.Proofs.Text.Pieces
import AlarmFeed.Proofs.Text.Utf8
import Mathlib.Data.List.TakeDrop

namespace AlarmFeed

/-- **A printable token**: some printable code points of ASCII, of which neither the first nor the last is
a space. -/
structure Text.Token (t : Text) : Prop where
  nonempty : t ≠ []
  printable : ∀ c ∈ t, 0x20 ≤ c.val ∧ c.val < 0x7F
  first : t.head? ≠ some (CodePoint.ofChar ' ')
  last : t.getLast? ≠ some (CodePoint.ofChar ' ')

/-- The authorization that brings a token. -/
def bearerValue (token : Text) : Text :=
  ("Bearer " : Text) ++ token

/-- The headers of a caller with a token, or without one. -/
def bearerHeaders (caller : Option Text) : List (Text × Text) :=
  caller.toList.map fun token => ("Authorization", bearerValue token)

/-- A `GET` of a caller at a given address. -/
def asking (remote target : Text) (caller : Option Text) : WebRequest where
  target := target
  headers := bearerHeaders caller
  remote := some remote

namespace Head

/-! ### The first line -/

/-- What two texts have in common ends where they part. -/
theorem common_append (t : Text) {method s : Text} (parted : common method s < s.length) :
    common method (s ++ t) = common method s := by
  induction s generalizing method with
  | nil => exact absurd parted (Nat.not_lt_zero _)
  | cons c s ih =>
    cases method with
    | nil => rfl
    | cons a method =>
      rw [List.cons_append, common, common]
      rw [common] at parted
      by_cases same : a = c
      · rw [if_pos same] at parted
        rw [if_pos same, if_pos same, ih (Nat.lt_of_succ_lt_succ parted)]
      · rw [if_neg same, if_neg same]

/-- A head that starts like a `GET` is read as one. -/
theorem readMethod_get (t : Text) :
    readMethod (("GET " : Text) ++ t) = .ok ("GET", t.dropWhile isSpace) := by
  have known : (methods ++ streamMethods).contains ("GET" : Text) = true := by decide +kernel
  have parted : ∀ method ∈ methods ++ streamMethods, common method "GET " < 4 := by decide +kernel
  have size : ((methods ++ streamMethods).map fun method => common method "GET ").foldl max 0 = 3 := by
    decide +kernel
  have same : ((methods ++ streamMethods).map fun method => common method (("GET " : Text) ++ t)) =
      (methods ++ streamMethods).map fun method => common method "GET " :=
    List.map_congr_left fun method member => common_append t (parted method member)
  have taken : List.take 3 (("GET " : Text) ++ t) = ("GET" : Text) := rfl
  rw [readMethod, same, size, taken, known]
  rfl

theorem skipLine_get (t : Text) :
    skipLine "GET" ((" HTTP/1.1\r\n" : Text) ++ t) = .ok t := rfl

/-- What has no end of a target in it is left behind as a whole or not at all, whatever follows it. -/
theorem skipZone_append (zone : Zone) {u : Text} (solid : ∀ c ∈ u, isTargetEnd c = false) :
    (∀ s, skipZone zone (u ++ CodePoint.ofChar ' ' :: s) = .ok (CodePoint.ofChar ' ' :: s)) ∨
      ∀ s, ∃ stop, skipZone zone (u ++ CodePoint.ofChar ' ' :: s) = .error stop := by
  induction u generalizing zone with
  | nil => exact Or.inl fun s => rfl
  | cons c u ih =>
    obtain ⟨inner, solid⟩ := List.forall_mem_cons.mp solid
    simp only [List.cons_append, skipZone.eq_def _ (c :: _), inner, Bool.false_eq_true, if_false]
    by_cases tab : isTab c = true
    · simp only [tab, if_true]
      exact Or.inr fun s => ⟨_, rfl⟩
    · by_cases point : isTargetPoint c = true
      · simp only [tab, point, if_true, Bool.false_eq_true, if_false]
        exact ih _ solid
      · simp only [tab, point, Bool.false_eq_true, if_false]
        cases zone with
        | path =>
          dsimp only
          split
          · exact ih _ solid
          · split
            · exact ih _ solid
            · exact Or.inr fun s => ⟨_, rfl⟩
        | query =>
          dsimp only
          split
          · exact ih _ solid
          · split
            · exact ih _ solid
            · exact Or.inr fun s => ⟨_, rfl⟩
        | fragment =>
          dsimp only
          split
          · exact ih _ solid
          · exact Or.inr fun s => ⟨_, rfl⟩

/-- The first line of a `GET`. -/
def line (target : Text) : Text :=
  ("GET " : Text) ++ target ++ (" HTTP/1.1\r\n" : Text)

/-- **A path as a target**: it starts with a slash and has no end of a target in it. -/
structure IsPath (target : Text) : Prop where
  slash : target.head? = some (CodePoint.ofChar '/')
  solid : ∀ c ∈ target, isTargetEnd c = false

/-- The end of reading a `GET` of a path: what is made of its headers. -/
def finish (path : Text) (headers : List (Text × Text)) : Except HeadFlaw Head := do
  checkSingletons headers
  return ⟨"GET", path, headers⟩

/-- What is read of a `GET` once its target is left behind. -/
def readOn (target s : Text) : Except HeadFlaw Head := do
  checkSize target
  let some path := Target.path? false target | throw (.address target)
  let headers ← readHeaders (line target ++ s) (s.length + 1) [] s
  finish path headers

/-- The head of a `GET` of a path is read by leaving its target behind and going on from there. -/
theorem read_line_eq (u s : Text) :
    ∃ next, Head.read (line (CodePoint.ofChar '/' :: u) ++ s) =
        (within (line (CodePoint.ofChar '/' :: u) ++ s) (skipZone .path
          (u ++ CodePoint.ofChar ' ' :: (("HTTP/1.1\r\n" : Text) ++ s)))).bind next ∧
      next (CodePoint.ofChar ' ' :: (("HTTP/1.1\r\n" : Text) ++ s)) =
        readOn (CodePoint.ofChar '/' :: u) s := by
  let space := CodePoint.ofChar ' '
  have start : (line (CodePoint.ofChar '/' :: u) ++ s).dropWhile
      (fun c => c == CodePoint.ofChar '\r' || c == CodePoint.ofChar '\n') =
        ("GET " : Text) ++ (CodePoint.ofChar '/' :: u ++ (space :: (("HTTP/1.1\r\n" : Text) ++ s))) := by
    simp only [line, List.append_assoc]
    rfl
  have spaceless : (CodePoint.ofChar '/' :: u ++ (space :: (("HTTP/1.1\r\n" : Text) ++ s))).dropWhile
      isSpace = CodePoint.ofChar '/' :: u ++ (space :: (("HTTP/1.1\r\n" : Text) ++ s)) := rfl
  have taken : (CodePoint.ofChar '/' :: u ++ (space :: (("HTTP/1.1\r\n" : Text) ++ s))).take
      ((CodePoint.ofChar '/' :: u ++ (space :: (("HTTP/1.1\r\n" : Text) ++ s))).length -
        (space :: (("HTTP/1.1\r\n" : Text) ++ s)).length) = CodePoint.ofChar '/' :: u := by
    rw [List.length_append, Nat.add_sub_cancel, List.take_left]
  rw [Head.read, start, readMethod_get, spaceless]
  refine ⟨_, rfl, ?_⟩
  rw [taken]
  refine congrArg (Except.bind (checkSize _)) (funext fun _ => ?_)
  show (within _ (skipLine "GET" ((" HTTP/1.1\r\n" : Text) ++ s))).bind _ = _
  have notConnecting : (("GET" : Text) == ("CONNECT" : Text)) = false := rfl
  rw [skipLine_get, notConnecting]
  cases Target.path? false (CodePoint.ofChar '/' :: u) with
  | none => rfl
  | some path => rfl

theorem path_of_finish {path : Text} {headers : Except HeadFlaw (List (Text × Text))} {head : Head}
    (read : headers.bind (finish path) = .ok head) : head.path = path := by
  cases headers with
  | error flaw => cases read
  | ok headers =>
    replace read : finish path headers = .ok head := read
    rw [finish] at read
    cases single : checkSingletons headers with
    | error flaw =>
      rw [single] at read
      cases read
    | ok _ =>
      rw [single] at read
      cases read
      rfl

/-- What is read on is a `GET` of the path that the target asks for. -/
theorem readOn_eq {target s : Text} {head : Head} (read : readOn target s = .ok head) (s' : Text) :
    readOn target s' =
      (readHeaders (line target ++ s') (s'.length + 1) [] s').bind (finish head.path) := by
  rw [readOn] at read ⊢
  cases size : checkSize target with
  | error flaw =>
    rw [size] at read
    cases read
  | ok _ =>
    rw [size] at read
    cases known : Target.path? false target with
    | none =>
      rw [known] at read
      cases read
    | some path =>
      rw [known] at read
      rw [path_of_finish read]
      rfl

/-- **The first line is read alone**: if it can be read with something behind it, it is read the same with
anything behind it. -/
theorem read_line {target s : Text} (isPath : IsPath target) {head : Head}
    (read : Head.read (line target ++ s) = .ok head) (s' : Text) :
    Head.read (line target ++ s') =
      (readHeaders (line target ++ s') (s'.length + 1) [] s').bind (finish head.path) := by
  obtain ⟨u, rfl⟩ := List.head?_eq_some_iff.mp isPath.slash
  obtain ⟨next, known, on⟩ := read_line_eq u s
  obtain ⟨next', known', on'⟩ := read_line_eq u s'
  rw [known] at read
  rw [known']
  rcases skipZone_append .path (List.forall_mem_cons.mp isPath.solid).2 with skipped | stopped
  · rw [skipped] at read ⊢
    exact on'.trans (readOn_eq (on.symm.trans read) s')
  · obtain ⟨stop, failed⟩ := stopped (("HTTP/1.1\r\n" : Text) ++ s)
    rw [failed] at read
    cases read

/-! ### The header -/

theorem isValuePoint_of_printable {c : CodePoint} (printable : 0x20 ≤ c.val ∧ c.val < 0x7F) :
    isValuePoint c = true := by
  have visible : decide (0x20 ≤ c.val) = true := decide_eq_true printable.1
  have other : (c.val != 0x7F) = true := bne_iff_ne.mpr (Nat.ne_of_lt printable.2)
  rw [isValuePoint, visible, other, Bool.and_true, Bool.or_true]

theorem isBlank_bearerValue (token : Text) :
    ∀ c ∈ (bearerValue token).head?, isBlank c = false := by
  intro c among
  cases among
  decide

/-- The value of a header is what stands up to the end of its line, if it can stand there. -/
theorem readValue_line {value : Text} (first : ∀ c ∈ value.head?, isBlank c = false)
    (points : ∀ c ∈ value, isValuePoint c = true) (rest : Text) :
    readValue (CodePoint.ofChar ' ' :: (value ++ (("\r\n" : Text) ++ rest))) = .ok (value, rest) := by
  have inked : (CodePoint.ofChar ' ' :: (value ++ (("\r\n" : Text) ++ rest))).dropWhile isBlank =
      value ++ (("\r\n" : Text) ++ rest) := by
    rw [List.dropWhile_cons_of_pos (by decide)]
    refine Text.dropWhile_eq_self fun c among => ?_
    cases value with
    | nil => cases among; decide
    | cons d value => exact first c among
  have cut : (value ++ (("\r\n" : Text) ++ rest)).span isValuePoint =
      (value, ("\r\n" : Text) ++ rest) := by
    rw [List.span_eq_takeWhile_dropWhile, List.takeWhile_append_of_pos points,
      List.dropWhile_append_of_pos points]
    exact congrArg (fun t => (t, ("\r\n" : Text) ++ rest)) (List.append_nil value)
  rw [readValue, inked, cut]
  rfl

end Head

namespace Text.Token

variable {token : Text}

theorem scalar (isToken : token.Token) : token.Scalar := by
  intro c member
  have small := (isToken.printable c member).2
  rw [CodePoint.isSurrogate, Bool.and_eq_false_iff, decide_eq_false_iff_not]
  omega

theorem length_bearer (isToken : token.Token) :
    Utf8.length (bearerValue token) = (bearerValue token).length := by
  refine Utf8.length_of_ascii fun c member => ?_
  rcases List.mem_append.mp member with scheme | inside
  · have word : (("Bearer " : Text).all fun c => c.val < 0x80) = true := by decide
    exact of_decide_eq_true (List.all_eq_true.mp word c scheme)
  · have small := (isToken.printable c inside).2
    omega

theorem bearer_points (isToken : token.Token) : ∀ c ∈ bearerValue token, Head.isValuePoint c = true := by
  intro c member
  rcases List.mem_append.mp member with scheme | inside
  · exact List.all_eq_true.mp (by decide : ("Bearer " : Text).all Head.isValuePoint = true) c scheme
  · exact Head.isValuePoint_of_printable (isToken.printable c inside)

/-- No blanks stand at the end of the header. -/
theorem trimEnd_bearer (isToken : token.Token) :
    trimEnd Head.isBlank (bearerValue token) = bearerValue token := by
  refine trimEnd_eq_self fun c among => ?_
  rw [bearerValue, List.getLast?_append_of_ne_nil _ isToken.nonempty] at among
  have printable := isToken.printable c (List.mem_of_mem_getLast? among)
  have noSpace : c ≠ CodePoint.ofChar ' ' := fun space => isToken.last (space ▸ among)
  have noTab : c ≠ CodePoint.ofChar '\t' := fun tab => absurd printable (tab ▸ by decide)
  rw [Head.isBlank, beq_false_of_ne noSpace, beq_false_of_ne noTab, Bool.or_false]

/-- Of printable code points only the space separates words. -/
theorem isSpace_of_printable {c : CodePoint} (printable : 0x20 ≤ c.val ∧ c.val < 0x7F)
    (noSpace : c ≠ CodePoint.ofChar ' ') : c.isSpace = false := by
  have other : c.val ≠ 0x20 := fun same => noSpace (Fin.ext same)
  simp only [CodePoint.isSpace, CodePoint.isBlank, Bool.or_eq_false_iff, Bool.and_eq_false_iff,
    decide_eq_false_iff_not, beq_eq_false_iff_ne]
  omega

/-- **The token comes out of its header as it went in.** -/
theorem ofHeader_bearer (isToken : token.Token) :
    Credential.ofHeader (bearerValue token) = some token := by
  have trimmed : trim CodePoint.isSpace token = token := by
    refine trim_eq_self (fun c among => ?_) (fun c among => ?_)
    · exact isSpace_of_printable (isToken.printable c (List.mem_of_mem_head? among))
        fun space => isToken.first (space ▸ among)
    · exact isSpace_of_printable (isToken.printable c (List.mem_of_mem_getLast? among))
        fun space => isToken.last (space ▸ among)
  obtain ⟨c, rest, rfl⟩ := List.exists_cons_of_ne_nil isToken.nonempty
  have found : after? "Bearer " (bearerValue (c :: rest)) = some (c :: rest) := rfl
  rw [Credential.ofHeader, found]
  dsimp only
  rw [trimmed]

end Text.Token

namespace Head

/-- **A printable token passes through its header**, if its value is not too long. -/
theorem readHeaders_bearer {token : Text} (isToken : token.Token) (whole : Text) (fuel : Nat) :
    readHeaders whole (fuel + 2) [] (("Authorization: " : Text) ++ (bearerValue token ++
        (("\r\n" : Text) ++ ("\r\n" : Text)))) =
      (checkSize (bearerValue token)).bind fun _ => .ok (bearerHeaders (some token)) := by
  have start : checkStart [] (("Authorization: " : Text) ++ (bearerValue token ++
      (("\r\n" : Text) ++ ("\r\n" : Text)))) = .ok () := rfl
  have more : ((Text.after? "\r\n" (("Authorization: " : Text) ++ (bearerValue token ++
      (("\r\n" : Text) ++ ("\r\n" : Text))))).isSome || List.isEmpty (("Authorization: " : Text) ++
        (bearerValue token ++ (("\r\n" : Text) ++ ("\r\n" : Text))))) = false := rfl
  have name : readName (("Authorization: " : Text) ++ (bearerValue token ++
      (("\r\n" : Text) ++ ("\r\n" : Text)))) =
        .ok ("Authorization", CodePoint.ofChar ' ' :: (bearerValue token ++
          (("\r\n" : Text) ++ ("\r\n" : Text)))) := rfl
  rw [readHeaders, start, more, name]
  -- the name is short, and announces no length
  show (within whole (readValue (CodePoint.ofChar ' ' :: (bearerValue token ++
    (("\r\n" : Text) ++ ("\r\n" : Text)))))).bind (fun valued => (checkSize valued.1).bind fun _ =>
      readHeaders whole (fuel + 1) [("Authorization", Text.trimEnd isBlank valued.1)] valued.2) = _
  rw [readValue_line (isBlank_bearerValue token) isToken.bearer_points]
  refine congrArg (Except.bind (checkSize _)) (funext fun _ => ?_)
  rw [isToken.trimEnd_bearer]
  rfl

/-! ### The whole request -/

section Asking

variable {remote target token : Text} {head : Head}

theorem head_asking_none : (asking remote target none).head = line target ++ ("\r\n" : Text) := by
  simp only [WebRequest.head, asking, bearerHeaders, Option.toList_none, List.map_nil, List.flatMap_nil,
    line, List.append_assoc]
  rfl

theorem head_asking_some :
    (asking remote target (some token)).head = line target ++ (("Authorization: " : Text) ++
      (bearerValue token ++ (("\r\n" : Text) ++ ("\r\n" : Text)))) := by
  simp only [WebRequest.head, asking, bearerHeaders, Option.toList_some, List.map_cons, List.map_nil,
    List.flatMap_cons, List.flatMap_nil, line, List.append_assoc]
  rfl

/-- A head without headers is that of a `GET`. -/
theorem eq_of_read_bare (isPath : IsPath target) (read : Head.read (asking remote target none).head = .ok head) :
    head = ⟨"GET", head.path, []⟩ := by
  rw [head_asking_none] at read
  have again := read_line isPath read "\r\n"
  rw [read] at again
  exact Except.ok.inj again

/-- A `GET` of a path is read up to its header, whose value has to be short enough. -/
theorem read_asking_some (isPath : IsPath target)
    (read : Head.read (asking remote target none).head = .ok head) (isToken : token.Token) :
    Head.read (asking remote target (some token)).head =
      (checkSize (bearerValue token)).bind fun _ =>
        .ok { head with headers := bearerHeaders (some token) } := by
  have get := eq_of_read_bare isPath read
  rw [head_asking_none] at read
  rw [head_asking_some, read_line isPath read]
  show (readHeaders _ (_ + 2) [] _).bind _ = _
  rw [readHeaders_bearer isToken]
  cases checkSize (bearerValue token) with
  | error flaw => rfl
  | ok _ =>
    rw [get]
    rfl

/-- **A request with a header that is not too long is read**, if it is without one. -/
theorem read_asking (isPath : IsPath target)
    (read : Head.read (asking remote target none).head = .ok head) {caller : Option Text}
    (printable : ∀ token ∈ caller, token.Token)
    (short : ∀ token ∈ caller, (bearerValue token).length ≤ sizeLimit) :
    Head.read (asking remote target caller).head =
      .ok { head with headers := bearerHeaders caller } := by
  cases caller with
  | none =>
    rw [read, eq_of_read_bare isPath read]
    rfl
  | some token =>
    have isToken := printable token rfl
    rw [read_asking_some isPath read isToken, checkSize, isToken.length_bearer,
      if_neg (Nat.not_lt.mpr (short token rfl))]
    rfl

/-- **A header that is too long is refused.** -/
theorem read_asking_tooLong (isPath : IsPath target)
    (read : Head.read (asking remote target none).head = .ok head) (isToken : token.Token)
    (long : sizeLimit < (bearerValue token).length) :
    Head.read (asking remote target (some token)).head = .error (.tooLong (bearerValue token)) := by
  rw [read_asking_some isPath read isToken, checkSize, isToken.length_bearer, if_pos long]
  rfl

end Asking

/-! ### What a head brings -/

/-- **A head brings a token**: its first authorization header has it; or it has no such header. -/
def Brings (head : Head) (caller : Option Text) : Prop :=
  (head.headers.find? fun (name, _) => name.lower == "authorization").map Prod.snd =
    caller.map bearerValue

theorem brings_bearerHeaders (head : Head) (caller : Option Text) :
    Brings { head with headers := bearerHeaders caller } caller := by
  cases caller <;> rfl

/-- The token that a head brings is that of the caller. -/
theorem Brings.bearer_eq {head : Head} {caller : Option Text} (brings : head.Brings caller)
    (printable : ∀ token ∈ caller, token.Token) : head.bearer = caller := by
  rw [Brings] at brings
  rw [bearer, Credential.ofHeaders]
  cases found : head.headers.find? fun (name, _) => name.lower == "authorization" with
  | none =>
    rw [found] at brings
    cases caller with
    | none => rfl
    | some token => cases brings
  | some header =>
    rw [found] at brings
    cases caller with
    | none => cases brings
    | some token =>
      have value : header.2 = bearerValue token := Option.some.inj brings
      show Credential.ofHeader header.2 = some token
      rw [value, (printable token rfl).ofHeader_bearer]

end Head

end AlarmFeed
