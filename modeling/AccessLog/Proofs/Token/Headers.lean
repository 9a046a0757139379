/-
Headers by name.

* `lowerByte`, `Headers.small`: a byte and a name in small letters.
* `Headers.inSmall`, `Headers.inAnyCase`: the first header whose name is spelled in
  small letters, and the first in any letter case.
* `Headers.shownOf`: what a field shows of a header.
* `Headers.value_of_ok`: what a name finds whose lower-case form has bytes.
* `Headers.value_lower`: an ASCII name finds the header that is spelled in small letters.
* `Token.Searches`: the headers that a token searches.
* `Token.header_rendered_iff`: **a header is found in any letter case** of the name that
  is asked for, but only under its name in small letters.
-/
import Mathlib.Data.List.Find
import AccessLog.Proofs.Format.Grammar
import AccessLog.Proofs.Format.Rendering
import AccessLog.Proofs.Text.Case

namespace AccessLog

/-- The code of a capital ASCII letter becomes that of the small one. -/
def lowerByte (b : UInt8) : UInt8 :=
  if 0x41 ≤ b.toNat ∧ b.toNat ≤ 0x5A then UInt8.ofNat (b.toNat + 0x20) else b

lemma lowerByte_lowerByte (b : UInt8) : lowerByte (lowerByte b) = lowerByte b := by
  by_cases capital : 0x41 ≤ b.toNat ∧ b.toNat ≤ 0x5A
  · have small : (UInt8.ofNat (b.toNat + 0x20)).toNat = b.toNat + 0x20 := by
      rw [UInt8.toNat_ofNat']
      omega
    rw [lowerByte, lowerByte, if_pos capital, small, if_neg (by omega)]
  · rw [lowerByte, lowerByte, if_neg capital, if_neg capital]

namespace Headers

/-- The bytes of a name in small letters. -/
def small (name : Text) : List UInt8 :=
  name.map fun c => lowerByte (UInt8.ofNat c.toNat)

/-- The first header whose name is spelled in small letters. -/
def inSmall (headers : Headers) (name : Text) : Option (List UInt8 × List UInt8) :=
  headers.find? fun header => header.1 = small name

/-- The first header that has the name in any letter case. -/
def inAnyCase (headers : Headers) (name : Text) : Option (List UInt8 × List UInt8) :=
  headers.find? fun header => header.1.map lowerByte = small name

/-- What a field shows of a header: its value, or missing data if there is none or if it is
empty. -/
def shownOf : Option (List UInt8 × List UInt8) → Text
  | none => missing
  | some (_, value) => if value = [] then missing else Text.ofLatin1 value

variable {headers : Headers} {name : Text}

/-- The lower-case form of an ASCII name is its bytes in small letters. -/
lemma toLatin1_lower (ascii : name.IsAscii) : name.lower.toLatin1 = .ok (small name) := by
  refine Text.toLatin1_eq_ok_iff.mpr ⟨fun c isIn => ?_, ?_⟩
  · have below := Text.isAscii_lower ascii c isIn
    omega
  · rw [Text.lower_of_isAscii ascii, small, List.map_map]
    refine List.map_congr_left fun c isIn => ?_
    have below := ascii c isIn
    have byte : (UInt8.ofNat c.toNat).toNat = c.toNat := by
      rw [UInt8.toNat_ofNat']
      omega
    rw [lowerByte, byte, Function.comp, CodePoint.toNat_lowerAscii]
    split <;> rfl

/-- A name whose lower-case form has bytes finds the first header of these bytes. -/
lemma value_of_ok {key : List UInt8} (encoded : name.lower.toLatin1 = .ok key) :
    headers.value name = .ok ((headers.find? fun header => header.1 = key).elim .null
      fun header => .text (Text.ofLatin1 header.2)) := by
  rw [value, find, encoded]
  simp only [bind, Except.bind, pure, Except.pure]
  cases headers.find? fun header => header.1 = key <;> rfl

/-- An ASCII name finds the first header that is spelled in small letters. -/
lemma value_lower (headers : Headers) (ascii : name.IsAscii) :
    headers.value name.lower =
      .ok ((headers.inSmall name).elim .null fun header => .text (Text.ofLatin1 header.2)) := by
  refine value_of_ok ?_
  rw [Text.lower_lower ascii, toLatin1_lower ascii]

/-- The field shows the value that was found. -/
lemma fieldText_found (found : Option (List UInt8 × List UInt8)) :
    (found.elim Value.null fun header => .text (Text.ofLatin1 header.2)).fieldText =
      shownOf found := by
  cases found with
  | none => rfl
  | some header =>
    obtain ⟨name, value⟩ := header
    cases value <;> rfl

/-- Among headers with names in small letters any letter case finds the same. -/
lemma inAnyCase_of_small (plain : ∀ header ∈ headers, header.1.map lowerByte = header.1) :
    headers.inAnyCase name = headers.inSmall name := by
  refine List.find?_congr fun header isIn => ?_
  rw [plain header isIn]

/-- A name in small letters is one in any letter case. -/
lemma map_small (name : Text) : (small name).map lowerByte = small name := by
  rw [small, List.map_map]
  exact List.map_congr_left fun c _ => lowerByte_lowerByte _

/-- Without a header in any letter case there is none in small letters. -/
lemma inSmall_eq_none (absent : headers.inAnyCase name = none) : headers.inSmall name = none := by
  refine List.find?_eq_none.mpr fun header isIn same =>
    List.find?_eq_none.mp absent header isIn ?_
  rw [decide_eq_true_eq] at same ⊢
  rw [same, map_small]

/-- The first header in any letter case is the first in small letters if it is spelled so. -/
lemma inSmall_eq_some {header : List UInt8 × List UInt8}
    (found : headers.inAnyCase name = some header) (spelled : header.1 = small name) :
    headers.inSmall name = some header := by
  obtain ⟨-, before, after, cut, others⟩ := List.find?_eq_some_iff_append.mp found
  refine List.find?_eq_some_iff_append.mpr
    ⟨decide_eq_true spelled, before, after, cut, fun other isIn => ?_⟩
  have apart := others other isIn
  simp only [Bool.not_eq_true', decide_eq_false_iff_not] at apart ⊢
  exact fun same => apart (by rw [same, map_small])

end Headers

namespace Token

/-- The headers that a token searches: those of the request, or those of the start message
that was handed over last. -/
def Searches (view : View) (token : Text) (headers : Headers) : Prop :=
  (token = "request" ∧ view.scope.headers = .ok headers) ∨
    (token = "response" ∧ ∃ reply m, m.headers = .ok headers ∧
      (Reply.stage reply m).2 = .ok () ∧ view.reply.headers = (reply.stage m).1.headers)

variable {view : View} {token name : Text} {headers : Headers}

/-- A start message that is taken over brings its headers. -/
lemma headers_stage {reply : Reply} {m : Message} (given : m.headers = .ok headers)
    (staged : (reply.stage m).2 = .ok ()) : (reply.stage m).1.headers = headers := by
  rw [Reply.stage] at staged ⊢
  split at staged
  · cases staged
  · simp only [given]

/-- The two tokens look up what their argument names. -/
lemma Searches.exists_extractor (searches : Searches view token headers) :
    ∃ f, Tokens.builtIn.lookup token = some (plain f) ∧
      ∀ argument, f view argument = headerNamed (.ok headers) argument := by
  rcases searches with ⟨rfl, asked⟩ | ⟨rfl, reply, m, given, staged, same⟩
  · exact ⟨requestHeader, rfl, fun argument => by rw [requestHeader, asked]⟩
  · refine ⟨responseHeader, rfl, fun argument => ?_⟩
    rw [responseHeader, same, headers_stage given staged]

/-- What the field of a header shows. -/
lemma Searches.render (searches : Searches view token headers)
    (argument : Specifier.IsArgument name) (ascii : name.IsAscii) :
    ((Entry.token token (some name)).render Tokens.builtIn view).result =
      .ok (Headers.shownOf (headers.inSmall name)) := by
  obtain ⟨f, known, looksUp⟩ := searches.exists_extractor
  have given : (Value.text name).truthy = true := by
    simpa [Value.truthy] using argument.1
  refine (Entry.render_plain_eq_ok_iff known).mpr ⟨_, ?_, (Headers.fieldText_found _).symm⟩
  rw [looksUp, headerNamed, argumentValue, given]
  exact headers.value_lower ascii

/-- **A header is found in any letter case** of the name that is asked for, but only under
its name in small letters: the field shows the first such header, or missing data if there
is none or if its value is empty. This is the first header that has the name in any letter
case, unless that one is spelled with a capital letter and shows something else; it is for
headers with names in small letters. -/
theorem header_rendered_iff (searches : Searches view token headers)
    (argument : Specifier.IsArgument name) (ascii : name.IsAscii) :
    let rendered := ((Entry.ofValue (.text (Specifier.written token (some name)))).render
      Tokens.builtIn view).result
    rendered = .ok (Headers.shownOf (headers.inSmall name)) ∧
      (rendered = .ok (Headers.shownOf (headers.inAnyCase name)) ↔
        ∀ header, headers.inAnyCase name = some header → header.1 = Headers.small name ∨
          Headers.shownOf (some header) = Headers.shownOf (headers.inSmall name)) ∧
      ((∀ header ∈ headers, header.1.map lowerByte = header.1) →
        rendered = .ok (Headers.shownOf (headers.inAnyCase name))) := by
  intro rendered
  have isName : Specifier.IsName token := by
    rcases searches with ⟨rfl, -⟩ | ⟨rfl, -⟩ <;> decide +kernel
  have spells : Specifier.Spells token (some name) (Specifier.written token (some name)) :=
    ⟨isName, fun a same => Option.some.inj same ▸ argument, rfl⟩
  have shows' : rendered = .ok (Headers.shownOf (headers.inSmall name)) := by
    simp only [rendered, Entry.ofValue_eq_token_iff.mpr ⟨_, rfl, spells⟩]
    exact searches.render argument ascii
  have agrees : rendered = .ok (Headers.shownOf (headers.inAnyCase name)) ↔
      Headers.shownOf (headers.inAnyCase name) = Headers.shownOf (headers.inSmall name) := by
    rw [shows', Except.ok.injEq, eq_comm]
  refine ⟨shows', agrees.trans ⟨?_, ?_⟩, fun plain => ?_⟩
  · intro same header found
    exact .inr (found ▸ same)
  · intro spelled
    cases found : headers.inAnyCase name with
    | none => rw [Headers.inSmall_eq_none found]
    | some header =>
      rcases spelled header found with small | same
      · rw [Headers.inSmall_eq_some found small]
      · exact same
  · rw [shows', Headers.inAnyCase_of_small plain]

/-- Of two headers of the name that is asked for in capitals the first is shown. -/
theorem header_rendered_iff_two_headers :
    let bytes (t : Text) : Value := .bytes (t.map fun c => .ofNat c.toNat)
    let m : Message := [("type", "http.response.start"), ("status", .int 200),
      ("headers", .list [.tuple [bytes "accept", bytes "all"], .tuple [bytes "x-id", bytes "one"],
        .tuple [bytes "x-id", bytes "two"]])]
    let view : View := { scope := [], reply := (Reply.stage {} m).1 }
    ((Entry.ofValue (.text (Specifier.written "response" (some "X-ID")))).render
      Tokens.builtIn view).result = .ok "one" := by
  intro bytes m view
  have searches : Searches view "response" view.reply.headers :=
    .inr ⟨rfl, {}, m, rfl, rfl, rfl⟩
  have argument : Specifier.IsArgument "X-ID" := by decide
  have ascii : Text.IsAscii "X-ID" := by decide
  obtain ⟨-, -, plain⟩ := header_rendered_iff searches argument ascii
  exact (plain (by decide)).trans (congrArg Except.ok (by decide))

/-- Headers with capital letters in their names, as the client and the application have
spelled them, are missing. -/
theorem capital_headers_missing :
    let bytes (t : Text) : Value := .bytes (t.map fun c => .ofNat c.toNat)
    let scope : Scope := [("headers", .list [.tuple [bytes "X-Request-Id", bytes "7"]])]
    let m : Message := [("type", "http.response.start"), ("status", .int 200),
      ("headers", .list [.tuple [bytes "Content-Length", bytes "12"]])]
    let view : View := { scope, reply := (Reply.stage {} m).1 }
    (CompiledFormat.ofItems [":request[x-request-id]", ":response[content-length]"]).render
        Tokens.builtIn view =
        .ok [("request_x_request_id", missing), ("response_content_length", missing)] ∧
      scope.headers.map (fun headers => Headers.shownOf (headers.inAnyCase "x-request-id")) =
        .ok "7" ∧
      m.headers.map (fun headers => Headers.shownOf (headers.inAnyCase "content-length")) =
        .ok "12" := by
  decide +kernel

end Token

end AccessLog
