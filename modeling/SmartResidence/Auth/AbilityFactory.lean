import SmartResidence.Billing.Schema
import SmartResidence.Foundation.RuleLists

/-!
# `ability.factory.ts` and `abilities.guard.ts`

Of CASL, what `can` does with rules that have at most one equality as their condition.
-/

namespace SmartResidence.Auth

open Foundation Billing

inductive Subject
  | all | condo | block | unit | ownership | tenancy | householdMember | visitor | visitorCheckIn
  | favouriteVisitor | visitorBlacklist | recurringPass | accessRestriction | invoice | payment | deposit
  | receipt | billingSettings | eInvoice | ledger | generalLedger | defect | defectUpdate | defectReport
  | unitType | defectTaxonomy | announcement | poll | generalMeeting | meetingProxy | meetingResolution
  | facility | booking | auditLog | user | roleAssignment | pushSubscription | notification | thread
  | threadMessage | faq | slaPolicy | mcpServer | sosAlert | patrolCheckpoint | patrolScan | parcel
  | formTemplate | formSubmission | documentFolder | document | documentVersion | lostFoundPost | vendor
  | vendorBill | platform
  deriving DecidableEq

inductive Action
  | manage | create | read | update | delete | resolve | approve | approveOvernight | manageOvernightPolicy
  | reject | cancel | checkIn | checkOut | createWalkIn | pay | publish | acknowledge | vote | submitProxy
  | invite | revoke | export' | collect | verify
  deriving DecidableEq

def Subject.text : Subject → String
  | .all => "all"
  | .condo => "Condo"
  | .block => "Block"
  | .unit => "Unit"
  | .ownership => "Ownership"
  | .tenancy => "Tenancy"
  | .householdMember => "HouseholdMember"
  | .visitor => "Visitor"
  | .visitorCheckIn => "VisitorCheckIn"
  | .favouriteVisitor => "FavouriteVisitor"
  | .visitorBlacklist => "VisitorBlacklist"
  | .recurringPass => "RecurringPass"
  | .accessRestriction => "AccessRestriction"
  | .invoice => "Invoice"
  | .payment => "Payment"
  | .deposit => "Deposit"
  | .receipt => "Receipt"
  | .billingSettings => "BillingSettings"
  | .eInvoice => "EInvoice"
  | .ledger => "Ledger"
  | .generalLedger => "GeneralLedger"
  | .defect => "Defect"
  | .defectUpdate => "DefectUpdate"
  | .defectReport => "DefectReport"
  | .unitType => "UnitType"
  | .defectTaxonomy => "DefectTaxonomy"
  | .announcement => "Announcement"
  | .poll => "Poll"
  | .generalMeeting => "GeneralMeeting"
  | .meetingProxy => "MeetingProxy"
  | .meetingResolution => "MeetingResolution"
  | .facility => "Facility"
  | .booking => "Booking"
  | .auditLog => "AuditLog"
  | .user => "User"
  | .roleAssignment => "RoleAssignment"
  | .pushSubscription => "PushSubscription"
  | .notification => "Notification"
  | .thread => "Thread"
  | .threadMessage => "ThreadMessage"
  | .faq => "Faq"
  | .slaPolicy => "SlaPolicy"
  | .mcpServer => "McpServer"
  | .sosAlert => "SosAlert"
  | .patrolCheckpoint => "PatrolCheckpoint"
  | .patrolScan => "PatrolScan"
  | .parcel => "Parcel"
  | .formTemplate => "FormTemplate"
  | .formSubmission => "FormSubmission"
  | .documentFolder => "DocumentFolder"
  | .document => "Document"
  | .documentVersion => "DocumentVersion"
  | .lostFoundPost => "LostFoundPost"
  | .vendor => "Vendor"
  | .vendorBill => "VendorBill"
  | .platform => "Platform"

def Action.text : Action → String
  | .manage => "manage"
  | .create => "create"
  | .read => "read"
  | .update => "update"
  | .delete => "delete"
  | .resolve => "resolve"
  | .approve => "approve"
  | .approveOvernight => "approve-overnight"
  | .manageOvernightPolicy => "manage-overnight-policy"
  | .reject => "reject"
  | .cancel => "cancel"
  | .checkIn => "check-in"
  | .checkOut => "check-out"
  | .createWalkIn => "create-walk-in"
  | .pay => "pay"
  | .publish => "publish"
  | .acknowledge => "acknowledge"
  | .vote => "vote"
  | .submitProxy => "submit-proxy"
  | .invite => "invite"
  | .revoke => "revoke"
  | .export' => "export"
  | .collect => "collect"
  | .verify => "verify"

inductive Field
  | id | condoId | unitId | userId
  deriving DecidableEq

/-- The condition of a rule: a field has a value. The empty text is `none`. -/
inductive Conditions
  | anything
  | equals (field : Field) (value : Option Id)

structure AbilityRule where
  inverted : Bool
  action : Action
  subject : Subject
  conditions : Conditions

abbrev Resource : Type := Field → List (Option Id)

/-- `can(action, subject)`, of a kind of resource or of one resource. -/
structure AbilityQuery where
  action : Action
  subject : Subject
  resource : Option Resource

def AbilityRule.matchesConditions (rule : AbilityRule) (resource : Option Resource) : Bool :=
  match rule.conditions, resource with
  | .anything, _ => true
  | .equals _ _, none => ! rule.inverted
  | .equals field value, some resource => decide (value ∈ resource field)

def AbilityRule.applies (rule : AbilityRule) (query : AbilityQuery) : Bool :=
  (decide (rule.action = query.action) || decide (rule.action = .manage)) &&
    (decide (rule.subject = query.subject) || decide (rule.subject = .all)) && rule.matchesConditions query.resource

def AbilityRule.permits (rule : AbilityRule) : Bool := ! rule.inverted

structure Scope where
  userId : Id
  condoId : Option Id
  unitId : Option Id

def Scope.isCondo (scope : Scope) : Conditions := .equals .id scope.condoId
def Scope.inCondo (scope : Scope) : Conditions := .equals .condoId scope.condoId
def Scope.isUnit (scope : Scope) : Conditions := .equals .id scope.unitId
def Scope.inUnit (scope : Scope) : Conditions := .equals .unitId scope.unitId
def Scope.isUser (scope : Scope) : Conditions := .equals .id (some scope.userId)
def Scope.byUser (scope : Scope) : Conditions := .equals .userId (some scope.userId)

def can (action : Action) (subject : Subject) (conditions : Conditions) : AbilityRule := ⟨false, action, subject, conditions⟩
def cannot (action : Action) (subject : Subject) : AbilityRule := ⟨true, action, subject, .anything⟩

def superAdminRules (_ : Scope) : List AbilityRule := [
  can .manage .all .anything, can .read .platform .anything, can .manage .platform .anything]

def managementAdminRules (scope : Scope) : List AbilityRule := [
  can .manage .condo scope.isCondo, can .manage .block scope.inCondo, can .manage .unit scope.inCondo,
  can .manage .ownership .anything, can .manage .tenancy .anything, can .read .visitor scope.inCondo,
  can .export' .visitor scope.inCondo, can .approveOvernight .visitor scope.inCondo,
  can .manageOvernightPolicy .visitor scope.inCondo, cannot .approve .visitor, cannot .reject .visitor,
  cannot .checkIn .visitor, cannot .checkOut .visitor, cannot .createWalkIn .visitor,
  can .manage .visitorBlacklist scope.inCondo, can .read .recurringPass scope.inCondo,
  can .manage .accessRestriction scope.inCondo, can .export' .accessRestriction scope.inCondo,
  can .manage .invoice scope.inCondo, can .manage .payment scope.inCondo, can .manage .deposit scope.inCondo,
  can .manage .receipt scope.inCondo, can .manage .billingSettings scope.inCondo, can .manage .eInvoice scope.inCondo,
  can .manage .ledger scope.inCondo, can .manage .generalLedger scope.inCondo, can .manage .defect scope.inCondo,
  can .manage .defectReport scope.inCondo, can .manage .unitType scope.inCondo,
  can .manage .defectTaxonomy scope.inCondo, can .manage .announcement scope.inCondo, can .manage .poll scope.inCondo,
  can .manage .generalMeeting scope.inCondo, can .manage .meetingResolution scope.inCondo,
  can .read .meetingProxy scope.inCondo, can .manage .facility scope.inCondo, can .manage .booking scope.inCondo,
  can .manage .roleAssignment scope.inCondo, can .manage .thread scope.inCondo, cannot .resolve .thread,
  can .manage .threadMessage .anything, can .manage .faq scope.inCondo, can .manage .slaPolicy scope.inCondo,
  can .manage .mcpServer scope.inCondo, can .manage .sosAlert scope.inCondo,
  can .manage .patrolCheckpoint scope.inCondo, can .read .patrolScan scope.inCondo, can .manage .parcel scope.inCondo,
  can .manage .formTemplate scope.inCondo, can .manage .formSubmission scope.inCondo,
  can .verify .formSubmission scope.inCondo, can .manage .documentFolder scope.inCondo,
  can .manage .document scope.inCondo, can .manage .documentVersion scope.inCondo,
  can .manage .lostFoundPost scope.inCondo, can .manage .vendor scope.inCondo, can .manage .vendorBill scope.inCondo,
  can .export' .vendorBill scope.inCondo, can .manage .notification scope.inCondo, can .read .auditLog scope.inCondo,
  can .read .user .anything, can .update .user .anything, can .export' .user scope.isUser,
  can .delete .user scope.isUser, can .export' .invoice scope.inCondo]

def managementStaffRules (scope : Scope) : List AbilityRule := [
  can .read .condo scope.isCondo, can .read .unit scope.inCondo, can .read .visitor scope.inCondo,
  cannot .approve .visitor, cannot .reject .visitor, cannot .approveOvernight .visitor,
  cannot .manageOvernightPolicy .visitor, cannot .checkIn .visitor, cannot .checkOut .visitor,
  cannot .createWalkIn .visitor, can .read .recurringPass scope.inCondo, can .read .defect scope.inCondo,
  can .update .defect scope.inCondo, can .read .defectReport scope.inCondo, can .update .defectReport scope.inCondo,
  can .read .unitType scope.inCondo, can .read .defectTaxonomy scope.inCondo, can .read .invoice scope.inCondo,
  can .read .deposit scope.inCondo, can .read .receipt scope.inCondo, can .read .billingSettings scope.inCondo,
  can .read .eInvoice scope.inCondo, can .read .ledger scope.inCondo, can .read .generalLedger scope.inCondo,
  can .publish .announcement scope.inCondo, can .read .poll scope.inCondo, can .read .generalMeeting scope.inCondo,
  can .read .meetingResolution scope.inCondo, can .read .meetingProxy scope.inCondo,
  can .read .facility scope.inCondo, can .read .booking scope.inCondo, can .read .thread scope.inCondo,
  can .update .thread scope.inCondo, can .create .threadMessage .anything, can .read .faq scope.inCondo,
  can .read .user .anything, can .update .user .anything, can .read .slaPolicy scope.inCondo,
  can .read .mcpServer scope.inCondo, can .read .sosAlert scope.inCondo, can .acknowledge .sosAlert scope.inCondo,
  can .resolve .sosAlert scope.inCondo, can .cancel .sosAlert scope.inCondo,
  can .read .patrolCheckpoint scope.inCondo, can .read .patrolScan scope.inCondo, can .read .parcel scope.inCondo,
  can .read .formTemplate scope.inCondo, can .read .formSubmission scope.inCondo,
  can .approve .formSubmission scope.inCondo, can .reject .formSubmission scope.inCondo,
  can .verify .formSubmission scope.inCondo, can .read .documentFolder scope.inCondo,
  can .read .document scope.inCondo, can .manage .documentVersion scope.inCondo,
  can .read .lostFoundPost scope.inCondo, can .manage .lostFoundPost scope.inCondo, can .read .vendor scope.inCondo,
  can .read .vendorBill scope.inCondo, can .create .vendorBill scope.inCondo, can .update .vendorBill scope.inCondo,
  can .read .notification scope.inCondo, can .export' .user scope.isUser, can .delete .user scope.isUser]

def securityGuardRules (scope : Scope) : List AbilityRule := [
  can .read .visitor scope.inCondo, can .read .unit scope.inCondo, can .checkIn .visitor scope.inCondo,
  can .checkOut .visitor scope.inCondo, can .createWalkIn .visitor scope.inCondo, can .read .sosAlert scope.inCondo,
  can .acknowledge .sosAlert scope.inCondo, can .resolve .sosAlert scope.inCondo, can .cancel .sosAlert scope.inCondo,
  can .create .sosAlert scope.inCondo, can .read .patrolCheckpoint scope.inCondo,
  can .create .patrolScan scope.inCondo, can .read .patrolScan scope.inCondo, can .create .parcel scope.inCondo,
  can .read .parcel scope.inCondo, can .collect .parcel scope.inCondo, can .verify .formSubmission scope.inCondo,
  can .export' .user scope.isUser, can .delete .user scope.isUser]

def unitOwnerRules (scope : Scope) : List AbilityRule := [
  can .read .condo scope.isCondo, can .read .unit scope.isUnit, can .create .visitor scope.inUnit,
  can .read .visitor scope.inUnit, can .delete .visitor scope.inUnit, can .approve .visitor scope.inUnit,
  can .reject .visitor scope.inUnit, can .manage .favouriteVisitor scope.inUnit,
  can .manage .recurringPass scope.inUnit, can .read .invoice scope.inUnit, can .pay .invoice scope.inUnit,
  can .read .deposit scope.inUnit, can .read .receipt scope.inUnit, can .read .ledger scope.inUnit,
  can .manage .defect scope.inUnit, can .manage .defectReport scope.inUnit, can .read .announcement scope.inCondo,
  can .acknowledge .announcement .anything, can .read .poll scope.inCondo, can .vote .poll scope.inCondo,
  can .read .generalMeeting scope.inCondo, can .submitProxy .meetingProxy scope.inCondo,
  can .read .meetingResolution scope.inCondo, can .vote .meetingResolution scope.inCondo,
  can .read .facility scope.inCondo, can .create .booking scope.inCondo, can .read .booking scope.inCondo,
  can .cancel .booking scope.inCondo, can .read .parcel scope.inUnit, can .collect .parcel scope.inUnit,
  can .read .formTemplate scope.inCondo, can .create .formSubmission scope.inCondo,
  can .read .formSubmission scope.inCondo, can .update .formSubmission scope.inCondo,
  can .cancel .formSubmission scope.inCondo, can .read .documentFolder scope.inCondo,
  can .read .document scope.inCondo, can .read .documentVersion scope.inCondo,
  can .create .lostFoundPost scope.inCondo, can .read .lostFoundPost scope.inCondo,
  can .resolve .lostFoundPost scope.byUser, can .delete .lostFoundPost scope.byUser,
  can .manage .tenancy scope.inUnit, can .manage .householdMember scope.inUnit, can .invite .user .anything,
  can .revoke .roleAssignment scope.inUnit, can .read .thread scope.inUnit, can .create .thread .anything,
  can .resolve .thread scope.inUnit, can .create .threadMessage .anything, can .read .faq scope.inCondo,
  can .read .auditLog scope.inUnit, can .read .slaPolicy scope.inCondo, can .create .sosAlert scope.inCondo,
  can .read .sosAlert scope.inCondo, can .cancel .sosAlert scope.inCondo, can .read .user scope.isUser,
  can .update .user scope.isUser, can .export' .user scope.isUser, can .delete .user scope.isUser]

def tenantRules (scope : Scope) : List AbilityRule := [
  can .read .condo scope.isCondo, can .read .unit scope.isUnit, can .create .visitor scope.inUnit,
  can .read .visitor scope.inUnit, can .delete .visitor scope.inUnit, can .approve .visitor scope.inUnit,
  can .reject .visitor scope.inUnit, can .manage .favouriteVisitor scope.inUnit,
  can .manage .recurringPass scope.inUnit, can .read .invoice scope.inUnit, can .read .deposit scope.inUnit,
  can .read .receipt scope.inUnit, can .read .ledger scope.inUnit, can .manage .defect scope.inUnit,
  can .manage .defectReport scope.inUnit, can .read .announcement scope.inCondo,
  can .acknowledge .announcement .anything, can .read .poll scope.inCondo, can .read .facility scope.inCondo,
  can .create .booking scope.inCondo, can .read .booking scope.inCondo, can .cancel .booking scope.inCondo,
  can .read .parcel scope.inUnit, can .collect .parcel scope.inUnit, can .read .formTemplate scope.inCondo,
  can .create .formSubmission scope.inCondo, can .read .formSubmission scope.inCondo,
  can .update .formSubmission scope.inCondo, can .cancel .formSubmission scope.inCondo,
  can .read .documentFolder scope.inCondo, can .read .document scope.inCondo,
  can .read .documentVersion scope.inCondo, can .create .lostFoundPost scope.inCondo,
  can .read .lostFoundPost scope.inCondo, can .resolve .lostFoundPost scope.byUser,
  can .delete .lostFoundPost scope.byUser, can .read .thread scope.inUnit, can .create .thread .anything,
  can .resolve .thread scope.inUnit, can .create .threadMessage .anything, can .read .faq scope.inCondo,
  can .create .sosAlert scope.inCondo, can .read .sosAlert scope.inCondo, can .cancel .sosAlert scope.inCondo,
  can .read .user scope.isUser, can .update .user scope.isUser, can .export' .user scope.isUser,
  can .delete .user scope.isUser]

def householdMemberRules (scope : Scope) : List AbilityRule := [
  can .read .unit scope.isUnit, can .create .visitor scope.inUnit, can .read .visitor scope.inUnit,
  can .delete .visitor scope.inUnit, can .read .announcement scope.inCondo, can .read .poll scope.inCondo,
  can .read .facility scope.inCondo, can .create .booking scope.inCondo, can .read .booking scope.inCondo,
  can .cancel .booking scope.inCondo, can .read .parcel scope.inUnit, can .read .formTemplate scope.inCondo,
  can .create .formSubmission scope.inCondo, can .read .formSubmission scope.inCondo,
  can .update .formSubmission scope.inCondo, can .cancel .formSubmission scope.inCondo,
  can .read .documentFolder scope.inCondo, can .read .document scope.inCondo,
  can .read .documentVersion scope.inCondo, can .create .lostFoundPost scope.inCondo,
  can .read .lostFoundPost scope.inCondo, can .resolve .lostFoundPost scope.byUser,
  can .delete .lostFoundPost scope.byUser, can .read .thread scope.inUnit, can .create .thread .anything,
  can .resolve .thread scope.inUnit, can .create .threadMessage .anything, can .read .faq scope.inCondo,
  can .create .sosAlert scope.inCondo, can .read .sosAlert scope.inCondo, can .cancel .sosAlert scope.inCondo,
  can .read .user scope.isUser, can .export' .user scope.isUser, can .delete .user scope.isUser]

def contractorRules (scope : Scope) : List AbilityRule := [
  can .read .defect .anything, can .update .defect .anything, can .export' .user scope.isUser,
  can .delete .user scope.isUser]

def applyRole (role : RoleId) (scope : Scope) : List AbilityRule :=
  match role with
  | .superAdmin => superAdminRules scope
  | .managementAdmin => managementAdminRules scope
  | .managementStaff => managementStaffRules scope
  | .securityGuard => securityGuardRules scope
  | .unitOwner => unitOwnerRules scope
  | .tenant => tenantRules scope
  | .householdMember => householdMemberRules scope
  | .contractor => contractorRules scope

def scopeOf (userId : Id) (r : RoleAssignment) : Scope := ⟨userId, r.condoId, r.unitId⟩

def build (user : AuthenticatedUser) : List AbilityRule :=
  (user.roles.map fun r => applyRole r.roleId (scopeOf user.id r)).flatten

def permitted (user : AuthenticatedUser) (query : AbilityQuery) : Bool :=
  decide (verdict AbilityRule.applies AbilityRule.permits (build user) query = some true)

structure RequiredAbility where
  action : Action
  subject : Subject

def missing (rule : RequiredAbility) : ApiError := .forbidden ("Missing " ++ rule.action.text ++ " on " ++ rule.subject.text)

def checkRequired (user : AuthenticatedUser) : List RequiredAbility → Result Unit
  | [] => .ok ()
  | rule :: rest => do
      throwIf (permitted user ⟨rule.action, rule.subject, none⟩ = false) (missing rule)
      checkRequired user rest

/-- `canActivate` of a route with the abilities it requires -/
def canActivate (required : List RequiredAbility) (user : Option AuthenticatedUser) : Result Unit := do
  match required with
  | [] => return ()
  | _ => do
      let user ← orThrow user (.forbidden "Authentication required")
      checkRequired user required

end SmartResidence.Auth
