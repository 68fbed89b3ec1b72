import SmartResidence.Billing.Payments
import SmartResidence.Gateway.JsValue

/-!
# `verifyWebhook` of the payment adapters and `handleGatewayCallback`
-/

namespace SmartResidence.Billing

structure WebhookVerifyOptions where
  body : Body
  credentials : Option Credentials
  allowUnsignedSandbox : Bool

structure Verified where
  providerRef : String
  succeeded : Bool
  deriving DecidableEq

def safeEqual (a b : String) : Bool := decide (a = b)

def ipay88Signature (env : Env) (parts : List String) : String := env.sha256 (String.join parts)

def stripAmount (amount : String) : String :=
  String.ofList (amount.toList.filter fun c => decide (c ≠ '.' ∧ c ≠ ','))

def ipay88VerifyWebhook (env : Env) (opts : WebhookVerifyOptions) : Result (Option Verified) :=
  match credential opts.credentials "merchantKey" with
  | none => return none
  | some merchantKey => do
      let merchantCode ← textOr (field opts.body "MerchantCode") ""
      let paymentId ← textOr (field opts.body "PaymentId") ""
      let refNo ← textOr (field opts.body "RefNo") ""
      let amount ← textOr (field opts.body "Amount") ""
      let currency ← textOr (field opts.body "Currency") ""
      let status ← textOr (field opts.body "Status") ""
      let signature ← textOr (field opts.body "Signature") ""
      let expected := ipay88Signature env
        [merchantKey, merchantCode, paymentId, refNo, stripAmount amount, currency, status]
      return if safeEqual signature expected then some ⟨refNo, decide (status = "1")⟩ else none

def fiuuVerifyWebhook (env : Env) (opts : WebhookVerifyOptions) : Result (Option Verified) :=
  match credential opts.credentials "secretKey" with
  | none => return none
  | some secretKey => do
      let tranID ← textOr (field opts.body "tranID") ""
      let orderid ← textOr (field opts.body "orderid") ""
      let status ← textOr (field opts.body "status") ""
      let domain ← textOr (field opts.body "domain") ""
      let amount ← textOr (field opts.body "amount") ""
      let currency ← textOr (field opts.body "currency") ""
      let appcode ← textOr (field opts.body "appcode") ""
      let paydate ← textOr (field opts.body "paydate") ""
      let skey ← textOr (field opts.body "skey") ""
      let key0 := env.md5 (String.join [tranID, orderid, status, domain, amount, currency])
      let key1 := env.md5 (String.join [paydate, domain, key0, appcode, secretKey])
      return if safeEqual skey key1 then some ⟨orderid, decide (status = "00")⟩ else none

def canonical (parts : List String) : String := String.intercalate "|" parts

def duitnowWebhookSignature (env : Env) (body : Body) (secret : String) : Result String := do
  let billRef ← textOr (field body "billRef") ""
  let endToEndId ← textOr (field body "endToEndId") ""
  let amount ← textOr (field body "amount") ""
  let currency ← textOr (field body "currency") "MYR"
  let status ← textOr (field body "status") ""
  return env.hmacSha256 secret (canonical [billRef, endToEndId, amount, currency, status])

def tngCallbackSignature (env : Env) (body : Body) (secret : String) : Result String := do
  let orderid ← textOr ((field body "orderid").or (field body "orderId")) ""
  let transactionId ← textOr ((field body "transactionId").or (field body "tranID")) ""
  let amount ← textOr (field body "amount") ""
  let currency ← textOr (field body "currency") "MYR"
  let status ← textOr (field body "status") ""
  return env.hmacSha256 secret (canonical [orderid, transactionId, amount, currency, status])

def isOneOf (status : String) (words : List String) : Bool :=
  words.any fun word => decide (toUpperCase status = word.toList)

def verifySigned (opts : WebhookVerifyOptions) (ref status : String) (success : List String)
    (signatureOf : Body → String → Result String) : Result (Option Verified) := do
  if ref = "" then return none
  match credential opts.credentials "webhookSecret" with
  | none =>
      return if isTrue (field opts.body "sandbox") ∧ opts.allowUnsignedSandbox then
        some ⟨ref, isOneOf status success⟩ else none
  | some secret => do
      let signature ← textOr ((field opts.body "signature").or (field opts.body "Signature")) ""
      let expected ← signatureOf opts.body secret
      return if signature ≠ "" ∧ safeEqual signature expected then some ⟨ref, isOneOf status success⟩
        else none

def duitnowVerifyWebhook (env : Env) (opts : WebhookVerifyOptions) : Result (Option Verified) := do
  let billRef ← textOr
    ((field opts.body "billRef").or ((field opts.body "refNo").or (field opts.body "orderid"))) ""
  let status ← textOr ((field opts.body "status").or (field opts.body "Status")) ""
  verifySigned opts billRef status ["SUCCESS", "00", "1"] (duitnowWebhookSignature env)

def tngVerifyWebhook (env : Env) (opts : WebhookVerifyOptions) : Result (Option Verified) := do
  let orderid ← textOr ((field opts.body "orderid").or (field opts.body "orderId")) ""
  let status ← textOr ((field opts.body "status").or (field opts.body "Status")) ""
  verifySigned opts orderid status ["SUCCESS", "00", "COMPLETED", "1"] (tngCallbackSignature env)

def stripeVerifyWebhook (env : Env) (opts : WebhookVerifyOptions) : Result (Option Verified) :=
  let client := (credential opts.credentials "secretKey").isSome ∨ env.stripeSecretKey.isSome
  let secret := ((opts.credentials.bind fun fields => fields.value "webhookSecret").or
    env.stripeWebhookSecret).getD ""
  if ¬ client ∨ secret = "" then return none
  else .error (.failure "Stripe webhook verification failed")

def adapterFor : PaymentProvider → Option (Env → WebhookVerifyOptions → Result (Option Verified))
  | .stripe => some stripeVerifyWebhook
  | .fpx => some fun _ _ => return none
  | .razer => some fiuuVerifyWebhook
  | .ipay88 => some ipay88VerifyWebhook
  | .duitnowQr => some duitnowVerifyWebhook
  | .tng => some tngVerifyWebhook
  | .manual => none

end SmartResidence.Billing

namespace SmartResidence.Billing

open Foundation

inductive CallbackTarget
  | payment (payment : Payment)
  | advance (advance : AdvancePayment)
  deriving DecidableEq

def CallbackTarget.provider : CallbackTarget → PaymentProvider
  | .payment row => row.provider
  | .advance row => row.provider

def CallbackTarget.amount : CallbackTarget → ℤ
  | .payment row => row.amount
  | .advance row => row.amount

def CallbackTarget.condoId? (db : Db) : CallbackTarget → Option Id
  | .payment row => (db.invoice? row.invoiceId).map Invoice.condoId
  | .advance row => some row.condoId

def callbackRef (body : Body) : Result String :=
  textOr ((field body "orderid").or ((field body "RefNo").or ((field body "refNo").or
    ((field body "billRef").or (field body "endToEndId"))))) ""

def findCallbackTarget (env : Env) (db : Db) (ref : String) : Option CallbackTarget :=
  match findPaymentByProviderRef env db ref with
  | some payment => some (.payment payment)
  | none => (findAdvancePaymentByProviderRef env db ref).map .advance

def allowUnsignedSandbox (env : Env) : Bool :=
  decide (env.nodeEnv = "development" ∨ env.nodeEnv = "test")

def reportedAmount (env : Env) (body : Body) (expected : ℤ) : Result (Option ℚ) := do
  let reported ← numberOrNaN ((field body "amount").or (field body "Amount"))
  match reported with
  | some amount => return some (100 * amount)
  | none =>
      return if isTrue (field body "sandbox") ∧ allowUnsignedSandbox env then some (expected : ℚ) else none

inductive CallbackAction
  | ignore
  | fail (target : CallbackTarget) (providerRef gatewayStatus : String)
  | hold (target : CallbackTarget) (providerRef : String)
  | review (target : CallbackTarget) (providerRef : String) (reported : ℚ)
  | settle (target : CallbackTarget) (providerRef : String) (reported : ℚ)
  deriving DecidableEq

def verifyCallback (env : Env) (db : Db) (provider : PaymentProvider) (body : Body) (condoId : Id) :
    Result (Option Verified) :=
  match adapterFor provider with
  | none => return none
  | some verifyWebhook => verifyWebhook env {
      body := body
      credentials := (resolveCredentials db condoId provider).map ResolvedCredentials.credentials
      allowUnsignedSandbox := allowUnsignedSandbox env }

def outcomeAction (env : Env) (body : Body) (target : CallbackTarget) (verified : Verified) :
    Result CallbackAction := do
  if verified.succeeded = false then
    let status ← textOr (field body "status") ""
    return .fail target verified.providerRef status
  match ← reportedAmount env body target.amount with
  | none => return .hold target verified.providerRef
  | some reported =>
      return if |reported - target.amount| > 1 then .review target verified.providerRef reported
        else .settle target verified.providerRef reported

/-- Everything `handleGatewayCallback` reads and checks before it writes. -/
def decideCallback (env : Env) (db : Db) (provider : PaymentProvider) (body : Body) :
    Result CallbackAction := do
  let ref ← callbackRef body
  if ref = "" then return .ignore
  match findCallbackTarget env db ref with
  | none => return .ignore
  | some target =>
      if target.provider ≠ provider then return .ignore
      match target.condoId? db with
      | none => return .ignore
      | some condoId =>
          match ← verifyCallback env db provider body condoId with
          | none => return .ignore
          | some verified => outcomeAction env body target verified

def performAction (env : Env) (now : Instant) (db : Db) : CallbackAction → Result Db
  | .ignore | .hold _ _ => return db
  | .fail (.payment _) ref status => return markPaymentFailed env now db ref status
  | .fail (.advance _) ref status => return markAdvancePaymentFailed env now db ref status
  | .review (.payment payment) ref reported =>
      return flagPaymentForReview env now db ref reported payment.amount
  | .review (.advance advance) ref reported =>
      return flagAdvancePaymentForReview env now db ref reported advance.amount
  | .settle (.payment _) ref _ => markPaymentSucceeded env now db ref
  | .settle (.advance _) ref _ => markAdvancePaymentSucceeded env now db ref

def handleGatewayCallback (env : Env) (now : Instant) (db : Db) (provider : PaymentProvider)
    (body : Body) : Result Db := do
  let action ← decideCallback env db provider body
  performAction env now db action

end SmartResidence.Billing
