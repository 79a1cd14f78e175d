import HookFlow.Json.Basic
/-!
The template of a deployment: a function app on a consumption plan with its storage account and its
insights. Members of objects are in ascending order of their names.
-/

namespace HookFlow.Deployment

/-- the parameters that a deployment has to give, or may -/
def templateParameters : Json :=
  .object [
    ("appName", .object [
      ("metadata", .object [
        ("description", .text "The name of the function app that you wish to create.")]),
      ("type", .text "string")]),
    ("blobURL", .object [
      ("metadata", .object [
        ("description", .text "Signed URL of the zip package the function app runs from.")]),
      ("type", .text "string")]),
    ("cleanAppName", .object [
      ("metadata", .object [
        ("description", .text "Alphanumeric name used for the function app and its storage account.")]),
      ("type", .text "string")]),
    ("location", .object [
      ("defaultValue", .text "[resourceGroup().location]"),
      ("metadata", .object [("description", .text "Location for all resources.")]),
      ("type", .text "string")]),
    ("storageAccountType", .object [
      ("allowedValues", .list [.text "Standard_LRS", .text "Standard_GRS", .text "Standard_RAGRS"]),
      ("defaultValue", .text "Standard_LRS"),
      ("metadata", .object [("description", .text "Storage Account type")]),
      ("type", .text "string")])]

/-- the names that are used throughout -/
def templateVariables : Json :=
  .object [
    ("applicationInsightsName", .text "[parameters('appName')]"),
    ("functionAppName", .text "[parameters('cleanAppName')]"),
    ("hostingPlanName", .text "[parameters('appName')]"),
    ("storageAccountName", .text "[parameters('cleanAppName')]"),
    ("storageAccountid", .text "[concat(resourceGroup().id,'/providers/','Microsoft.Storage/storageAccounts/', variables('storageAccountName'))]")]

/-- the resources -/
def templateResources : Json :=
  .list [
    .object [
      ("apiVersion", .text "2016-12-01"),
      ("kind", .text "Storage"),
      ("location", .text "[parameters('location')]"),
      ("name", .text "[variables('storageAccountName')]"),
      ("sku", .object [("name", .text "[parameters('storageAccountType')]")]),
      ("type", .text "Microsoft.Storage/storageAccounts")],
    .object [
      ("apiVersion", .text "2019-08-01"),
      ("kind", .text "functionapp"),
      ("location", .text "[parameters('location')]"),
      ("name", .text "[variables('hostingPlanName')]"),
      ("properties", .object [
        ("computeMode", .text "Dynamic"),
        ("name", .text "[variables('hostingPlanName')]"),
        ("reserved", .bool true)]),
      ("sku", .object [("name", .text "Y1"), ("tier", .text "Dynamic")]),
      ("type", .text "Microsoft.Web/serverfarms")],
    .object [
      ("apiVersion", .text "2015-08-01"),
      ("dependsOn", .list [
        .text "[resourceId('Microsoft.Web/serverfarms', variables('hostingPlanName'))]",
        .text "[resourceId('Microsoft.Storage/storageAccounts', variables('storageAccountName'))]"]),
      ("kind", .text "functionapp,linux"),
      ("location", .text "[parameters('location')]"),
      ("name", .text "[variables('functionAppName')]"),
      ("properties", .object [
        ("serverFarmId", .text "[resourceId('Microsoft.Web/serverfarms', variables('hostingPlanName'))]"),
        ("siteConfig", .object [
          ("appSettings", .list [
            .object [
              ("name", .text "AzureWebJobsStorage"),
              ("value", .text "[concat('DefaultEndpointsProtocol=https;AccountName=', variables('storageAccountName'), ';AccountKey=', listKeys(variables('storageAccountid'),'2015-05-01-preview').key1)]")],
            .object [
              ("name", .text "WEBSITE_RUN_FROM_PACKAGE"),
              ("value", .text "[parameters('blobURL')]")],
            .object [("name", .text "FUNCTIONS_EXTENSION_VERSION"), ("value", .text "~3")],
            .object [
              ("name", .text "APPINSIGHTS_INSTRUMENTATIONKEY"),
              ("value", .text "[reference(resourceId('microsoft.insights/components/', variables('applicationInsightsName')), '2015-05-01').InstrumentationKey]")],
            .object [("name", .text "FUNCTIONS_WORKER_RUNTIME"), ("value", .text "node")],
            .object [
              ("name", .text "WEBSITE_NODE_DEFAULT_VERSION"),
              ("value", .text "~12")]])])]),
      ("type", .text "Microsoft.Web/sites")],
    .object [
      ("apiVersion", .text "2018-05-01-preview"),
      ("location", .text "[parameters('location')]"),
      ("name", .text "[variables('applicationInsightsName')]"),
      ("properties", .object [
        ("ApplicationId", .text "[variables('applicationInsightsName')]"),
        ("Request_Source", .text "IbizaWebAppExtensionCreate")]),
      ("tags", .object [
        ("[concat('hidden-link:', resourceGroup().id, '/providers/Microsoft.Web/sites/', variables('applicationInsightsName'))]", .text "Resource")]),
      ("type", .text "Microsoft.Insights/components")]]

/-- the template -/
def template : Json :=
  .object [
    ("$schema", .text "https://schema.management.azure.com/schemas/2015-01-01/deploymentTemplate.json#"),
    ("contentVersion", .text "1.0.0.0"),
    ("parameters", templateParameters),
    ("resources", templateResources),
    ("variables", templateVariables)]

/-- what a flow's deployment gives for the parameters of the template: the name of the flow, the name
of the deployment, and the link to the archive -/
def parameters (flow deployment blobUrl : String) : Json :=
  let given (v : String) : Json := .object [("value", .text v)]
  .object [("appName", given flow), ("blobURL", given blobUrl), ("cleanAppName", given deployment)]

end HookFlow.Deployment
