import MultiAcademy.Control.Schema

/-!
# The address of a caller

`client_ip` of `app/middleware_ops.py` takes the address from `X-Forwarded-For`, counting the
trusted proxies from the right.  Each of them has appended the address that it saw to what the
client sent, in one header line.
-/

namespace MultiAcademy.Control

/-- `[h.strip() for h in forwarded.split(",") if h.strip()]`. -/
def hopsOf (forwarded : String) : List String :=
  ((forwarded.toList.splitOn ',').map fun h => strip (String.ofList h)).filter (· ≠ "")

/-- `client_ip`, of the host of `request.client` and the header. -/
def clientIp (trustedProxyCount : ℤ) (host forwarded : Option String) : String :=
  let peer := host.getD ""
  if trustedProxyCount ≤ 0 then peer
  else match forwarded.filter (· ≠ "") with
    | none => peer
    | some forwarded =>
      let hops := hopsOf forwarded
      if hops = [] then peer else hops.getD (hops.length - trustedProxyCount.toNat) ""

/-! ## The header -/

/-- What a proxy appends: an address, with blanks around it or not. -/
structure Hop where
  text : List Char
  no_comma : ',' ∉ text
  not_blank : strip (String.ofList text) ≠ ""

def Hop.address (hop : Hop) : String := strip (String.ofList hop.text)

/-- A proxy sends the header on. -/
def appendHop (forwarded : Option String) (hop : Hop) : Option String :=
  match forwarded with
  | none => some (String.ofList hop.text)
  | some header => some (String.ofList (header.toList ++ ',' :: hop.text))

/-- The header that arrives, of what the client sent. -/
def forwardedFor (client : Option String) (hops : List Hop) : Option String :=
  hops.foldl appendHop client

theorem hopsOf_append (header : String) (hop : Hop) :
    hopsOf (String.ofList (header.toList ++ ',' :: hop.text)) = hopsOf header ++ [hop.address] := by
  simp only [hopsOf, String.toList_ofList]
  rw [List.splitOn_append_cons_self, List.splitOn_eq_singleton hop.no_comma, List.map_append,
    List.filter_append]
  congr 1
  exact List.filter_cons_of_pos (by simpa using hop.not_blank)

theorem hopsOf_appendHop (forwarded : Option String) (hop : Hop) :
    (appendHop forwarded hop).elim [] hopsOf = forwarded.elim [] hopsOf ++ [hop.address] := by
  cases forwarded with
  | none =>
    simp only [appendHop, Option.elim, hopsOf, String.toList_ofList, List.nil_append]
    rw [List.splitOn_eq_singleton hop.no_comma]
    exact List.filter_cons_of_pos (by simpa using hop.not_blank)
  | some header => exact hopsOf_append header hop

theorem hopsOf_forwardedFor (client : Option String) (hops : List Hop) :
    (forwardedFor client hops).elim [] hopsOf
      = client.elim [] hopsOf ++ hops.map Hop.address := by
  induction hops generalizing client with
  | nil => simp [forwardedFor]
  | cons hop hops ih =>
    rw [forwardedFor, List.foldl_cons, ← forwardedFor, ih, hopsOf_appendHop]
    simp

/-- A header that is empty has no addresses. -/
theorem clientIp_eq {trustedProxyCount : ℤ} (hcount : 0 < trustedProxyCount)
    (host forwarded : Option String) (hne : forwarded.elim [] hopsOf ≠ []) :
    clientIp trustedProxyCount host forwarded = (forwarded.elim [] hopsOf).getD
      ((forwarded.elim [] hopsOf).length - trustedProxyCount.toNat) "" := by
  cases forwarded with
  | none => exact absurd rfl hne
  | some header =>
    have hheader : header ≠ "" := by
      rintro rfl
      exact hne (by decide)
    simp only [Option.elim] at hne ⊢
    simp only [clientIp, if_neg (not_le.2 hcount), Option.filter_some, hheader, ne_eq,
      not_false_eq_true, decide_true, if_true, if_neg hne]

theorem clientIp_forwardedFor (host client : Option String) (hops : List Hop) :
    clientIp hops.length host (forwardedFor client hops)
      = ((hops.head?).map Hop.address).getD (host.getD "") := by
  cases hops with
  | nil => rfl
  | cons hop hops =>
    have hhops := hopsOf_forwardedFor client (hop :: hops)
    rw [clientIp_eq (by simp) host _ (by rw [hhops]; simp), hhops]
    simp

/-- **A client cannot choose its address**: what it sends in the header does not matter. -/
theorem client_ip_not_spoofed (host : Option String) (hops : List Hop)
    (client client' : Option String) :
    clientIp hops.length host (forwardedFor client hops)
      = clientIp hops.length host (forwardedFor client' hops) := by
  rw [clientIp_forwardedFor, clientIp_forwardedFor]

end MultiAcademy.Control
