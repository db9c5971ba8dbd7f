import Mathlib.Data.List.Basic
import ProductCatalog.Http.Router
import ProductCatalog.Proofs.Http.Address
import ProductCatalog.Proofs.Http.Status
import ProductCatalog.Proofs.Query.WrittenNumber

/-! The pages that may read the answers. What a response says about it is settled by the origins
that are allowed and the one that asks; no other step of the way adds to it. A server allows the
pages that it sends itself if its address is one of octets, or that of all interfaces. -/

namespace ProductCatalog.Http

namespace Response

/-- The values that a response has for a header. -/
def values (name : String) (response : Response) : List String :=
  (response.headers.filter (·.1 = name)).map (·.2)

/-- The pages that may read the response. -/
def readers (response : Response) : List String :=
  response.values "access-control-allow-origin"

theorem readers_addHeader {name : String} (other : name ≠ "access-control-allow-origin")
    (value : String) (response : Response) :
    (response.addHeader name value).readers = response.readers := by
  simp [readers, values, addHeader, other]

theorem readers_share (origin : String) (response : Response) :
    (response.addHeader "access-control-allow-origin" origin).readers =
      response.readers ++ [origin] := by
  simp [readers, values, addHeader]

theorem readers_json (status : Nat) (value : Json.Value) : (json status value).readers = [] := by
  simp [readers, values, json]

theorem readers_html (page : String) : (html page).readers = [] := by
  simp [readers, values, html]

end Response

theorem readers_reply {α : Type} (toJson : α → Json.Value) (outcome : Except Store.Fault α) :
    (reply toJson outcome).readers = [] := by
  cases outcome with
  | ok value => exact Response.readers_json 200 (toJson value)
  | error fault => exact Response.readers_json _ _

theorem readers_get (connection : Store.Connection) (request : Request) (resource : Resource) :
    (resource.get connection request).readers = [] := by
  cases resource with
  | description => exact Response.readers_json 200 _
  | documentation => exact Response.readers_html _
  | health => exact Response.readers_json _ _
  | products => exact readers_reply _ _
  | featured => exact readers_reply _ _

theorem readers_plainResponse (connection : Store.Connection) (request : Request) :
    (plainResponse connection request).readers = [] := by
  rw [plainResponse]
  cases Resource.ofPath? request.target.path with
  | none => exact Response.readers_json _ _
  | some resource =>
      by_cases read : isRead request.method = true
      · simp only [read, if_true, readers_get]
      · simp [read, Response.readers, Response.values]

theorem readers_encodeBody (request : Request) (response : Response) :
    (encodeBody request response).readers = response.readers := by
  rw [encodeBody]
  by_cases small : response.body.utf8ByteSize < minCompressedSize
  · rw [if_pos small]
  · rw [if_neg small]
    cases Coding.choose (request.header "accept-encoding") <;>
      simp only [Response.readers_addHeader (by decide : "vary" ≠ _),
        Response.readers_addHeader (by decide : "content-encoding" ≠ _)]

theorem readers_nameMethods (request : Request) (response : Response) :
    (nameMethods request response).readers = response.readers := by
  unfold nameMethods
  split
  · simp [Response.readers, Response.values, allowHeader]
  · rfl

theorem readers_giveLength (response : Response) :
    (giveLength response).readers = response.readers := by
  unfold giveLength
  split
  · rfl
  · exact Response.readers_addHeader (by decide) _ response

theorem readers_dropBody (request : Request) (response : Response) :
    (dropBody request response).readers = response.readers := by
  unfold dropBody
  split <;> rfl

theorem readers_shareWith (origins : List String) (request : Request) (response : Response) :
    (shareWith origins request response).readers = response.readers ++
      ((request.header "origin").head?.filter (· ∈ headerValues origins)).toList := by
  have vary (value : String) : (response.addHeader "vary" value).readers = response.readers :=
    Response.readers_addHeader (by decide) value response
  rw [shareWith]
  cases (request.header "origin").head? with
  | none => simp [vary]
  | some origin =>
      by_cases allowed : origin ∈ headerValues origins
      · simp [allowed, vary, Response.readers_share, Option.filter_some]
      · simp [allowed, vary, Option.filter_some]

/-- A response is for the page that asks, if it is one that is allowed, and for no other. -/
theorem readers_respond (connection : Store.Connection) (origins : List String)
    (request : Request) :
    (respond connection origins request).readers =
      ((request.header "origin").head?.filter (· ∈ headerValues origins)).toList := by
  have unshared : (if request.method = "OPTIONS" then preflightResponse
      else encodeBody request (plainResponse connection request)).readers = [] := by
    by_cases asks : request.method = "OPTIONS"
    · rw [if_pos asks]
      rfl
    · rw [if_neg asks, readers_encodeBody, readers_plainResponse]
  rw [respond]
  simp only [readers_dropBody, readers_giveLength, readers_nameMethods, readers_shareWith, unshared,
    List.nil_append]

/-- The host of an address as a browser writes it. -/
def bracketed (host : String) : String :=
  if isAddress6 host.toList then "[" ++ host ++ "]" else host

/-- The hosts of the pages that a server at an address sends. -/
def pageHosts (host : String) : List String :=
  if host = "0.0.0.0" ∨ host = "::" then ["localhost", "127.0.0.1"] else [bracketed host]

/-- The origins of the pages that a server sends, with its port or without. -/
def pageOrigins (host : String) (port : UInt16) : List String :=
  (pageHosts host).flatMap fun name =>
    ["http://" ++ name ++ ":" ++ toString port, "http://" ++ name]

theorem mem_pageOrigins {host origin : String} {port : UInt16} :
    origin ∈ pageOrigins host port ↔ ∃ name ∈ pageHosts host,
      origin = "http://" ++ name ++ ":" ++ toString port ∨ origin = "http://" ++ name := by
  simp [pageOrigins]

theorem mem_allowedOrigins {host origin : String} {port : UInt16} :
    origin ∈ allowedOrigins host port ↔ ∃ name ∈ originHosts host,
      origin = "http://" ++ name ++ ":" ++ toString port ∨
      origin = "http://" ++ name ++ ":" ++ toString (developmentPort port) ∨
      origin = "http://" ++ name := by
  rw [allowedOrigins, List.mem_flatMap]
  simp only [hostOrigins, List.mem_cons, List.not_mem_nil, or_false]
  rfl

theorem isLocal_iff (host : String) :
    isLocal host = true ↔ (((host = "0.0.0.0" ∨ host = "::") ∨ host = "[::]") ∨
      host = "127.0.0.1") ∨ host = "localhost" := by
  simp only [isLocal, isAllInterfaces, Bool.or_eq_true, beq_iff_eq]

theorem pageHosts_subset {host : String} (shared : isAddress4 host.toList = true ∨ host = "::") :
    pageHosts host ⊆ originHosts host := by
  by_cases all : host = "0.0.0.0" ∨ host = "::"
  · have near : isLocal host = true := (isLocal_iff host).mpr (by simp only [all, true_or])
    simp [pageHosts, originHosts, all, near]
  · have octets : isAddress4 host.toList = true :=
      shared.resolve_right fun same => all (Or.inr same)
    have plain : bracketed host = host := by
      simp [bracketed, not_isAddress6_of_isAddress4 octets]
    rw [pageHosts, if_neg all, plain, originHosts]
    by_cases near : isLocal host = true
    · rw [if_pos near]
      rcases (isLocal_iff host).mp near with ((every | rfl) | rfl) | rfl
      · exact absurd every all
      · exact absurd octets (by decide)
      · simp
      · simp
    · rw [if_neg near]
      exact List.Subset.refl [host]

theorem isHeaderChar_of_isAddressChar {c : Char} (address : IsAddressChar c) :
    isHeaderChar c = true := by
  rcases address with digit | rfl | rfl
  · simp only [isHexadecimal, Decimal.isDigit, Bool.or_eq_true, Bool.and_eq_true,
      decide_eq_true_eq] at digit
    change ((48 ≤ c.toNat ∧ c.toNat ≤ 57) ∨ (97 ≤ c.toNat ∧ c.toNat ≤ 102)) ∨
      (65 ≤ c.toNat ∧ c.toNat ≤ 70) at digit
    have printed : ' ' ≤ c := by
      change 32 ≤ c.toNat
      omega
    have kept : c ≠ '\x7f' := by
      rintro rfl
      revert digit
      decide
    simp [isHeaderChar, printed, kept]
  · decide
  · decide

theorem all_isHeaderChar_port (port : UInt16) :
    (toString port).toList.all isHeaderChar = true := by
  rw [List.all_eq_true]
  intro c member
  have written : (toString port).toList = Nat.toDigits 10 port.toNat :=
    String.toList_ofList
  rw [written] at member
  have digit : isHexadecimal c = true := by
    simp [isHexadecimal, Query.isDigit_of_mem_toDigits member]
  exact isHeaderChar_of_isAddressChar (Or.inl digit)

theorem all_isHeaderChar_originHosts {host name : String} (address : isAddress host = true)
    (among : name ∈ originHosts host) : name.toList.all isHeaderChar = true := by
  unfold originHosts at among
  split at among
  · rcases List.mem_pair.mp among with rfl | rfl
    · decide
    · decide
  · rw [List.mem_singleton.mp among, List.all_eq_true]
    intro c member
    exact isHeaderChar_of_isAddressChar (isAddressChar_of_isAddress address c member)

/-- At an address every allowed origin can be the value of a header. -/
theorem headerValues_allowedOrigins {host : String} (address : isAddress host = true)
    (port : UInt16) : headerValues (allowedOrigins host port) = allowedOrigins host port := by
  refine List.filter_eq_self.mpr fun origin allowed => ?_
  obtain ⟨name, among, shape⟩ := mem_allowedOrigins.mp allowed
  have scheme : "http://".toList.all isHeaderChar = true := by decide
  have colon : ":".toList.all isHeaderChar = true := by decide
  have host_chars := all_isHeaderChar_originHosts address among
  rcases shape with rfl | rfl | rfl <;>
    simp only [String.toList_append, List.all_append, scheme, colon, host_chars,
      all_isHeaderChar_port, Bool.and_self]

theorem originHosts_of_address6 {host : String} (groups : isAddress6 host.toList = true)
    (single : host ≠ "::") : originHosts host = [host] := by
  have far : ¬isLocal host = true := by
    rw [isLocal_iff]
    rintro ((((rfl | rfl) | rfl) | rfl) | rfl)
    · exact absurd groups (by decide)
    · exact single rfl
    all_goals exact absurd groups (by decide)
  rw [originHosts, if_neg far]

theorem pageHosts_of_address6 {host : String} (groups : isAddress6 host.toList = true)
    (single : host ≠ "::") : pageHosts host = ["[" ++ host ++ "]"] := by
  have one : ¬(host = "0.0.0.0" ∨ host = "::") := by
    rintro (rfl | rfl)
    · exact absurd groups (by decide)
    · exact single rfl
  rw [pageHosts, if_neg one, bracketed, if_pos groups]

theorem pageOrigins_bracket {host origin : String} {port : UInt16}
    (groups : isAddress6 host.toList = true) (single : host ≠ "::")
    (page : origin ∈ pageOrigins host port) :
    ∃ rest, origin.toList = "http://".toList ++ '[' :: rest := by
  obtain ⟨name, among, shape⟩ := mem_pageOrigins.mp page
  rw [pageHosts_of_address6 groups single, List.mem_singleton] at among
  subst among
  rcases shape with rfl | rfl <;>
    exact ⟨_, by simp only [String.toList_append, List.append_assoc]; rfl⟩

theorem allowedOrigins_bare {host origin : String} {port : UInt16}
    (groups : isAddress6 host.toList = true) (single : host ≠ "::")
    (allowed : origin ∈ allowedOrigins host port) :
    ∃ rest, origin.toList = "http://".toList ++ (host.toList ++ rest) := by
  obtain ⟨name, among, shape⟩ := mem_allowedOrigins.mp allowed
  rw [originHosts_of_address6 groups single, List.mem_singleton] at among
  subst among
  rcases shape with rfl | rfl | rfl
  · exact ⟨":".toList ++ (toString port).toList, by
      simp only [String.toList_append, List.append_assoc]⟩
  · exact ⟨":".toList ++ (toString (developmentPort port)).toList, by
      simp only [String.toList_append, List.append_assoc]⟩
  · exact ⟨[], by simp only [String.toList_append, List.append_nil]⟩

theorem address6_append_ne_bracket {text : List Char} (groups : isAddress6 text = true)
    (behind rest : List Char) : text ++ behind ≠ '[' :: rest := by
  intro same
  cases text with
  | nil => exact absurd groups (by decide)
  | cons first tail =>
      have opening : IsAddressChar '[' := by
        rw [← (List.cons.inj same).1]
        exact isAddressChar_of_isAddress6 groups first List.mem_cons_self
      rcases opening with digit | colon | point
      · exact absurd digit (by decide)
      · exact absurd colon (by decide)
      · exact absurd point (by decide)

/-- Where a page has a bracket, behind the scheme, an allowed origin has the address itself. -/
theorem not_allowed_of_address6 {host origin : String} {port : UInt16}
    (groups : isAddress6 host.toList = true) (single : host ≠ "::")
    (page : origin ∈ pageOrigins host port) : origin ∉ allowedOrigins host port := by
  intro allowed
  obtain ⟨rest, bracket⟩ := pageOrigins_bracket groups single page
  obtain ⟨behind, bare⟩ := allowedOrigins_bare groups single allowed
  have same : host.toList ++ behind = '[' :: rest :=
    List.append_cancel_left (bare.symm.trans bracket)
  exact address6_append_ne_bracket groups behind rest same

/-- The origins of the pages that a server at an address sends, with its port or without, are
allowed if the address is one of octets, or that of all interfaces, and no others are. The answers
to pages that ask name exactly the allowed ones, each to itself. -/
theorem page_origins_shared {host : String} (address : isAddress host = true) (port : UInt16) :
    (∀ origin ∈ pageOrigins host port,
      origin ∈ allowedOrigins host port ↔ isAddress4 host.toList = true ∨ host = "::") ∧
    ∀ (connection : Store.Connection) (request : Request) (origin : String),
      (request.header "origin").head? = some origin →
      (respond connection (allowedOrigins host port) request).values
          "access-control-allow-origin" =
        if origin ∈ allowedOrigins host port then [origin] else [] := by
  refine ⟨?_, ?_⟩
  · intro origin page
    constructor
    · intro allowed
      by_contra unshared
      obtain ⟨groups, single⟩ := not_or.mp unshared
      have address6 : isAddress6 host.toList = true := by
        rw [isAddress, Bool.or_eq_true] at address
        exact address.resolve_left groups
      exact not_allowed_of_address6 address6 single page allowed
    · intro shared
      obtain ⟨name, among, shape⟩ := mem_pageOrigins.mp page
      refine mem_allowedOrigins.mpr ⟨name, pageHosts_subset shared among, ?_⟩
      exact shape.imp_right Or.inr
  · intro connection request origin asks
    have readers := readers_respond connection (allowedOrigins host port) request
    rw [headerValues_allowedOrigins address port, asks] at readers
    rw [← Response.readers, readers]
    by_cases allowed : origin ∈ allowedOrigins host port
    · simp [allowed, Option.filter_some]
    · simp [allowed, Option.filter_some]

theorem page_origins_shared_octets :
    isAddress "192.168.0.7" = true ∧ "http://192.168.0.7:65535" ∈ pageOrigins "192.168.0.7" 65535 ∧
      "http://192.168.0.7:65535" ∈ allowedOrigins "192.168.0.7" 65535 ∧
      (respond { database := {} } (allowedOrigins "192.168.0.7" 65535)
        (productsRequest none [("origin", "http://192.168.0.7:65535")])).values
          "access-control-allow-origin" = ["http://192.168.0.7:65535"] := by
  have address : isAddress "192.168.0.7" = true := by decide
  have page : "http://192.168.0.7:65535" ∈ pageOrigins "192.168.0.7" 65535 := by decide
  obtain ⟨allowed_iff, answers⟩ := page_origins_shared address 65535
  have allowed := (allowed_iff _ page).mpr (Or.inl (by decide))
  refine ⟨address, page, allowed, ?_⟩
  rw [answers _ _ _ rfl, if_pos allowed]

/-- The address of a machine to itself is not allowed as a browser writes it. -/
theorem page_origins_not_shared :
    isAddress "::1" = true ∧ "http://[::1]:3000" ∈ pageOrigins "::1" 3000 ∧
      "http://[::1]:3000" ∉ allowedOrigins "::1" 3000 ∧
      (respond { database := {} } (allowedOrigins "::1" 3000)
        (productsRequest none [("origin", "http://[::1]:3000")])).values
          "access-control-allow-origin" = [] := by
  decide +kernel

end ProductCatalog.Http
