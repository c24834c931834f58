/-
Likely subtags: the script and the region that a tag stands for when it does not say them, and the
language when only those are known.
-/
import Trellis.Locale.Tag

namespace Trellis.Locale

/-- Tags with language, script and region. -/
def fullTags (s : String) : List Tag :=
  (Text.words s).filterMap fun w =>
    match Text.splitOnChar w '-' with
    | [language, script, region] => some { language, script, region }
    | _ => none

/-- What a language stands for. -/
def likelyOfLanguage : List Tag := fullTags
  "aa-Latn-ET ab-Cyrl-GE ace-Latn-ID ach-Latn-UG acm-Arab-IQ ada-Latn-GH ady-Cyrl-RU ae-Avst-IR
   aeb-Arab-TN af-Latn-ZA afh-Latn-GH agq-Latn-CM ain-Kana-JP ak-Latn-GH akk-Xsux-IQ ale-Latn-US
   alt-Cyrl-RU am-Ethi-ET an-Latn-ES ang-Latn-GB anp-Deva-IN apc-Arab-SY ar-Arab-EG arc-Armi-IR
   arn-Latn-CL arp-Latn-US ars-Arab-SA arw-Latn-SR ary-Arab-MA arz-Arab-EG as-Beng-IN asa-Latn-TZ
   ast-Latn-ES av-Cyrl-RU awa-Deva-IN ay-Latn-BO az-Latn-AZ ba-Cyrl-RU bal-Arab-PK ban-Latn-ID
   bar-Latn-AT bas-Latn-CM be-Cyrl-BY bej-Arab-SD bem-Latn-ZM bez-Latn-TZ bg-Cyrl-BG bgn-Arab-PK
   bh-Deva-IN bho-Deva-IN bi-Latn-VU bik-Latn-PH bin-Latn-NG bjn-Latn-ID bla-Latn-CA bm-Latn-ML
   bn-Beng-BD bo-Tibt-CN bpy-Beng-IN bqi-Arab-IR br-Latn-FR brx-Deva-IN bs-Latn-BA bss-Latn-CM
   bua-Cyrl-RU bug-Latn-ID byn-Ethi-ER ca-Latn-ES cad-Latn-US car-Latn-VE cay-Latn-CA cch-Latn-NG
   ccp-Cakm-BD ce-Cyrl-RU ceb-Latn-PH cgg-Latn-UG ch-Latn-GU chg-Arab-TM chk-Latn-FM chm-Cyrl-RU
   chn-Latn-US cho-Latn-US chp-Latn-CA chr-Cher-US chy-Latn-US ckb-Arab-IQ co-Latn-FR cop-Copt-EG
   cr-Cans-CA crh-Cyrl-UA crs-Latn-SC cs-Latn-CZ csb-Latn-PL cu-Cyrl-RU cv-Cyrl-RU cy-Latn-GB
   da-Latn-DK dak-Latn-US dar-Cyrl-RU dav-Latn-KE de-Latn-DE del-Latn-US den-Latn-CA dgr-Latn-CA
   din-Latn-SS dje-Latn-NE doi-Deva-IN dsb-Latn-DE dua-Latn-CM dum-Latn-NL dv-Thaa-MV dyo-Latn-SN
   dyu-Latn-BF dz-Tibt-BT ebu-Latn-KE ee-Latn-GH efi-Latn-NG egl-Latn-IT egy-Egyp-EG eka-Latn-NG
   el-Grek-GR en-Latn-US enm-Latn-GB eo-Latn-001 es-Latn-ES et-Latn-EE eu-Latn-ES ewo-Latn-CM
   ext-Latn-ES fa-Arab-IR fan-Latn-GQ ff-Latn-SN fi-Latn-FI fil-Latn-PH fj-Latn-FJ fo-Latn-FO
   fon-Latn-BJ fr-Latn-FR frm-Latn-FR fro-Latn-FR frp-Latn-FR frr-Latn-DE frs-Latn-DE fur-Latn-IT
   fy-Latn-NL ga-Latn-IE gaa-Latn-GH gan-Hans-CN gay-Latn-ID gba-Latn-CF gd-Latn-GB gez-Ethi-ET
   gil-Latn-KI gl-Latn-ES glk-Arab-IR gmh-Latn-DE gn-Latn-PY goh-Latn-DE gon-Deva-IN gor-Latn-ID
   got-Goth-UA grb-Latn-LR grc-Grek-GR gsw-Latn-CH gu-Gujr-IN guz-Latn-KE gv-Latn-IM gwi-Latn-CA
   ha-Latn-NG hai-Latn-CA hak-Hans-CN haw-Latn-US he-Hebr-IL hi-Deva-IN hif-Deva-FJ hil-Latn-PH
   hit-Xsux-TR hmn-Latn-CN ho-Latn-PG hr-Latn-HR hsb-Latn-DE hsn-Hans-CN ht-Latn-HT hu-Latn-HU
   hup-Latn-US hy-Armn-AM hz-Latn-NA ia-Latn-001 iba-Latn-MY id-Latn-ID ie-Latn-EE ig-Latn-NG
   ii-Yiii-CN ik-Latn-US ilo-Latn-PH inh-Cyrl-RU io-Latn-001 is-Latn-IS it-Latn-IT iu-Cans-CA
   ja-Jpan-JP jbo-Latn-001 jgo-Latn-CM jmc-Latn-TZ jpr-Hebr-IL jrb-Hebr-IL jv-Latn-ID ka-Geor-GE
   kaa-Cyrl-UZ kab-Latn-DZ kac-Latn-MM kam-Latn-KE kaw-Bali-ID kbd-Cyrl-RU kde-Latn-TZ kea-Latn-CV
   kfo-Latn-CI kg-Latn-CD kgp-Latn-BR kha-Latn-IN kho-Brah-IR khq-Latn-ML ki-Latn-KE kiu-Latn-TR
   kj-Latn-NA kk-Cyrl-KZ kl-Latn-GL kln-Latn-KE km-Khmr-KH kmb-Latn-AO kn-Knda-IN ko-Kore-KR
   kok-Deva-IN kos-Latn-FM kpe-Latn-LR kr-Latn-NG krc-Cyrl-RU kri-Latn-SL krl-Latn-RU kru-Deva-IN
   ks-Arab-IN ksb-Latn-TZ ksf-Latn-CM ksh-Latn-DE ku-Latn-TR kum-Cyrl-RU kut-Latn-CA kv-Cyrl-RU
   kw-Latn-GB ky-Cyrl-KG la-Latn-VA lad-Hebr-IL lag-Latn-TZ lah-Arab-PK lam-Latn-ZM lb-Latn-LU
   lez-Cyrl-RU lg-Latn-UG li-Latn-NL lij-Latn-IT lkt-Latn-US lmo-Latn-IT ln-Latn-CD lo-Laoo-LA
   lol-Latn-CD loz-Latn-ZM lrc-Arab-IR lt-Latn-LT ltg-Latn-LV lu-Latn-CD lua-Latn-CD lui-Latn-US
   lun-Latn-ZM luo-Latn-KE lus-Latn-IN luy-Latn-KE lv-Latn-LV mad-Latn-ID mag-Deva-IN mai-Deva-IN
   mak-Latn-ID man-Latn-GM mas-Latn-KE mdf-Cyrl-RU mdr-Latn-ID men-Latn-SL mer-Latn-KE mfe-Latn-MU
   mg-Latn-MG mga-Latg-IE mgh-Latn-MZ mgo-Latn-CM mh-Latn-MH mi-Latn-NZ mic-Latn-CA min-Latn-ID
   mk-Cyrl-MK ml-Mlym-IN mn-Cyrl-MN mnc-Mong-CN mni-Beng-IN moh-Latn-CA mos-Latn-BF mr-Deva-IN
   ms-Latn-MY mt-Latn-MT mua-Latn-CM mus-Latn-US mwl-Latn-PT mwr-Deva-IN my-Mymr-MM myv-Cyrl-RU
   mzn-Arab-IR na-Latn-NR nan-Hans-CN nap-Latn-IT naq-Latn-NA nb-Latn-NO nd-Latn-ZW nds-Latn-DE
   ne-Deva-NP new-Deva-NP ng-Latn-NA nia-Latn-ID niu-Latn-NU nl-Latn-NL nmg-Latn-CM nn-Latn-NO
   nnh-Latn-CM no-Latn-NO nog-Cyrl-RU non-Runr-SE nov-Latn-001 nqo-Nkoo-GN nr-Latn-ZA nso-Latn-ZA
   nus-Latn-SS nv-Latn-US nwc-Newa-NP ny-Latn-MW nym-Latn-TZ nyn-Latn-UG nyo-Latn-UG nzi-Latn-GH
   oc-Latn-FR oj-Cans-CA om-Latn-ET or-Orya-IN os-Cyrl-GE osa-Osge-US ota-Arab-TR pa-Guru-IN
   pag-Latn-PH pal-Phli-IR pam-Latn-PH pap-Latn-CW pau-Latn-PW pcm-Latn-NG pdc-Latn-US pdt-Latn-CA
   peo-Xpeo-IR pfl-Latn-DE phn-Phnx-LB pi-Latn-GB pl-Latn-PL pms-Latn-IT pnt-Grek-GR pon-Latn-FM
   prg-Latn-PL pro-Latn-FR ps-Arab-AF pt-Latn-BR qu-Latn-PE raj-Deva-IN rap-Latn-CL rar-Latn-CK
   rgn-Latn-IT rm-Latn-CH rn-Latn-BI ro-Latn-RO rof-Latn-TZ rom-Latn-RO ru-Cyrl-RU rue-Cyrl-UA
   rup-Latn-RO rw-Latn-RW rwk-Latn-TZ sa-Deva-IN sad-Latn-TZ sah-Cyrl-RU sam-Samr-PS saq-Latn-KE
   sas-Latn-ID sat-Olck-IN sba-Latn-TD sbp-Latn-TZ sc-Latn-IT scn-Latn-IT sco-Latn-GB sd-Arab-PK
   sdh-Arab-IR se-Latn-NO seh-Latn-MZ sel-Cyrl-RU ses-Latn-ML sg-Latn-CF sga-Latn-IE sgs-Latn-LT
   shi-Tfng-MA shn-Mymr-MM si-Sinh-LK sid-Latn-ET sk-Latn-SK sl-Latn-SI sli-Latn-PL sm-Latn-WS
   sma-Latn-SE smj-Latn-SE smn-Latn-FI sms-Latn-FI sn-Latn-ZW snk-Latn-ML so-Latn-SO sog-Sogd-UZ
   sq-Latn-AL sr-Cyrl-RS srn-Latn-SR srr-Latn-SN ss-Latn-ZA ssy-Latn-ER st-Latn-ZA stq-Latn-DE
   su-Latn-ID suk-Latn-TZ sus-Latn-GN sv-Latn-SE sw-Latn-TZ swb-Arab-YT syc-Syrc-TR syr-Syrc-IQ
   szl-Latn-PL ta-Taml-IN te-Telu-IN tem-Latn-SL teo-Latn-UG ter-Latn-BR tet-Latn-TL tg-Cyrl-TJ
   th-Thai-TH ti-Ethi-ET tig-Ethi-ER tiv-Latn-NG tk-Latn-TM tkl-Latn-TK tkr-Latn-AZ tli-Latn-US
   tly-Latn-AZ tmh-Latn-NE tn-Latn-ZA to-Latn-TO tog-Latn-MW tpi-Latn-PG tr-Latn-TR tru-Latn-TR
   trv-Latn-TW ts-Latn-ZA tsi-Latn-CA tt-Cyrl-RU ttt-Latn-AZ tum-Latn-MW tvl-Latn-TV tw-Latn-GH
   twq-Latn-NE ty-Latn-PF tyv-Cyrl-RU tzm-Latn-MA udm-Cyrl-RU ug-Arab-CN uga-Ugar-SY uk-Cyrl-UA
   umb-Latn-AO ur-Arab-PK uz-Latn-UZ vai-Vaii-LR ve-Latn-ZA vec-Latn-IT vep-Latn-RU vi-Latn-VN
   vls-Latn-BE vmf-Latn-DE vo-Latn-001 vot-Latn-RU vun-Latn-TZ wa-Latn-BE wae-Latn-CH wal-Ethi-ET
   war-Latn-PH was-Latn-US wbp-Latn-AU wo-Latn-SN wuu-Hans-CN xal-Cyrl-RU xh-Latn-ZA xmf-Geor-GE
   xog-Latn-UG yao-Latn-MZ yap-Latn-FM yav-Latn-CM yi-Hebr-UA yo-Latn-NG yrl-Latn-BR yue-Hant-HK
   za-Latn-CN zap-Latn-MX zea-Latn-NL zen-Tfng-MR zgh-Tfng-MA zh-Hans-CN zu-Latn-ZA zun-Latn-US
   zza-Latn-TR"

/-- What a language stands for in a script that is not its own. -/
def likelyOfScript : List Tag := fullTags
  "arc-Hatr-IQ arc-Nbat-JO arc-Palm-SY az-Arab-IR cu-Glag-BG en-Shaw-GB ff-Adlm-GN hak-Hant-TW
   kk-Arab-CN ku-Arab-IQ ku-Cyrl-AM ky-Arab-CN ky-Latn-TR man-Nkoo-GN mn-Mong-CN nan-Hant-TW
   pa-Arab-PK pal-Phlp-CN pi-Deva-IN pi-Mymr-MM pi-Sinh-LK pi-Thai-TH pnt-Cyrl-RU pnt-Latn-TR
   sd-Deva-IN sd-Khoj-IN sd-Sind-IN tg-Arab-PK ug-Cyrl-KZ uz-Arab-AF yue-Hans-CN zh-Bopo-TW
   zh-Hanb-TW zh-Hant-TW"

/-- What a language stands for in a region where another script is used. -/
def likelyOfRegion : List Tag := fullTags
  "az-Arab-IQ az-Arab-IR az-Cyrl-RU ha-Arab-CM ha-Arab-SD hak-Hant-TW kk-Arab-AF kk-Arab-CN
   kk-Arab-IR kk-Arab-MN ku-Arab-IQ ku-Arab-IR ku-Arab-LB ku-Cyrl-AM ku-Cyrl-AZ ku-Cyrl-GE
   ku-Cyrl-TM ky-Arab-CN ky-Latn-TR mn-Mong-CN ms-Arab-CC nan-Hant-MO nan-Hant-TW pa-Arab-PK
   pi-Deva-IN pi-Mymr-MM pi-Sinh-LK pi-Thai-TH pnt-Cyrl-RU pnt-Latn-TR sd-Deva-IN sr-Latn-ME
   sr-Latn-RO sr-Latn-TR tg-Arab-PK ug-Cyrl-KZ ug-Cyrl-MN uz-Arab-AF uz-Cyrl-CN yue-Hans-CN
   zh-Hant-AU zh-Hant-BN zh-Hant-GB zh-Hant-GF zh-Hant-HK zh-Hant-ID zh-Hant-MO zh-Hant-MY
   zh-Hant-PA zh-Hant-PF zh-Hant-PH zh-Hant-SR zh-Hant-TH zh-Hant-TW zh-Hant-US zh-Hant-VN"

/-- What a script alone stands for. -/
def likelyInScript : List Tag := fullTags
  "ff-Adlm-GN xag-Aghb-AZ aho-Ahom-IN ar-Arab-EG arc-Armi-IR hy-Armn-AM ae-Avst-IR ban-Bali-ID
   bax-Bamu-CM bsq-Bass-LR bbc-Batk-ID bn-Beng-BD sa-Bhks-IN zh-Bopo-TW pka-Brah-IN fr-Brai-FR
   bug-Bugi-ID bku-Buhd-PH ccp-Cakm-BD iu-Cans-CA xcr-Cari-TR cjm-Cham-VN chr-Cher-US cop-Copt-EG
   ecy-Cprt-CY ru-Cyrl-RU hi-Deva-IN doi-Dogr-IN fr-Dupl-FR egy-Egyp-EG sq-Elba-AL am-Ethi-ET
   ka-Geor-GE cu-Glag-BG wsg-Gong-IN esg-Gonm-IN got-Goth-UA sa-Gran-IN el-Grek-GR gu-Gujr-IN
   pa-Guru-IN zh-Hanb-TW ko-Hang-KR zh-Hani-CN hnn-Hano-PH zh-Hans-CN zh-Hant-TW arc-Hatr-IQ
   he-Hebr-IL ja-Hira-JP hlu-Hluw-TR hnj-Hmng-LA hu-Hung-HU ett-Ital-IT ko-Jamo-KR jv-Java-ID
   ja-Jpan-JP eky-Kali-MM ja-Kana-JP pgd-Khar-PK km-Khmr-KH sd-Khoj-IN zkt-Kits-CN kn-Knda-IN
   ko-Kore-KR bho-Kthi-IN nod-Lana-TH lo-Laoo-LA en-Latn-US lep-Lepc-IN lif-Limb-IN lab-Lina-GR
   gmy-Linb-GR lis-Lisu-CN xlc-Lyci-TR xld-Lydi-TR hi-Mahj-IN mak-Maka-ID myz-Mand-IR xmn-Mani-CN
   bo-Marc-CN dmf-Medf-NG men-Mend-SL xmr-Merc-SD xmr-Mero-SD ml-Mlym-IN mr-Modi-IN mn-Mong-CN
   mro-Mroo-BD mni-Mtei-IN skr-Mult-PK my-Mymr-MM xna-Narb-SA arc-Nbat-JO new-Newa-NP man-Nkoo-GN
   sga-Ogam-IE sat-Olck-IN otk-Orkh-MN or-Orya-IN osa-Osge-US so-Osma-SO arc-Palm-SY ctd-Pauc-MM
   kv-Perm-RU lzh-Phag-CN pal-Phli-IR pal-Phlp-CN phn-Phnx-LB hmd-Plrd-CN xpr-Prti-IR rej-Rjng-ID
   non-Runr-SE smp-Samr-IL xsa-Sarb-YE saz-Saur-IN ase-Sgnw-US en-Shaw-GB sa-Shrd-IN sa-Sidd-IN
   sd-Sind-IN si-Sinh-LK sog-Sogd-UZ sog-Sogo-UZ srb-Sora-IN cmg-Soyo-MN su-Sund-ID syl-Sylo-BD
   syr-Syrc-IQ tbw-Tagb-PH doi-Takr-IN tdd-Tale-CN khb-Talu-CN ta-Taml-IN txg-Tang-CN blt-Tavt-VN
   te-Telu-IN zgh-Tfng-MA fil-Tglg-PH dv-Thaa-MV th-Thai-TH bo-Tibt-CN mai-Tirh-IN uga-Ugar-SY
   vai-Vaii-LR hoc-Wara-IN nnp-Wcho-IN peo-Xpeo-IR akk-Xsux-IQ ii-Yiii-CN cmg-Zanb-MN"

/-- What a region alone stands for; in other regions it is English. -/
def likelyInRegion : List Tag := fullTags
  "ca-Latn-AD ar-Arab-AE fa-Arab-AF sq-Latn-AL hy-Armn-AM pap-Latn-AN pt-Latn-AO es-Latn-AR
   sm-Latn-AS de-Latn-AT nl-Latn-AW sv-Latn-AX az-Latn-AZ bs-Latn-BA bn-Beng-BD nl-Latn-BE
   fr-Latn-BF bg-Cyrl-BG ar-Arab-BH rn-Latn-BI fr-Latn-BJ fr-Latn-BL ms-Latn-BN es-Latn-BO
   pap-Latn-BQ pt-Latn-BR dz-Tibt-BT my-Mymr-BU no-Latn-BV be-Cyrl-BY ms-Arab-CC fr-Latn-CD
   sg-Latn-CF fr-Latn-CG de-Latn-CH fr-Latn-CI es-Latn-CL fr-Latn-CM zh-Hans-CN es-Latn-CO
   es-Latn-CR sr-Cyrl-CS es-Latn-CU pt-Latn-CV pap-Latn-CW el-Grek-CY cs-Latn-CZ de-Latn-DD
   de-Latn-DE fr-Latn-DJ da-Latn-DK es-Latn-DO fr-Latn-DY ar-Arab-DZ es-Latn-EA es-Latn-EC
   et-Latn-EE ar-Arab-EG ar-Arab-EH ti-Ethi-ER es-Latn-ES am-Ethi-ET fi-Latn-FI fo-Latn-FO
   fr-Latn-FR fr-Latn-FX fr-Latn-GA ka-Geor-GE fr-Latn-GF ak-Latn-GH kl-Latn-GL fr-Latn-GN
   fr-Latn-GP es-Latn-GQ el-Grek-GR es-Latn-GT pt-Latn-GW zh-Hant-HK es-Latn-HN hr-Latn-HR
   ht-Latn-HT hu-Latn-HU fr-Latn-HV es-Latn-IC id-Latn-ID he-Hebr-IL hi-Deva-IN ar-Arab-IQ
   fa-Arab-IR is-Latn-IS it-Latn-IT ar-Arab-JO ja-Jpan-JP sw-Latn-KE ky-Cyrl-KG km-Khmr-KH
   ar-Arab-KM ko-Kore-KP ko-Kore-KR ar-Arab-KW ru-Cyrl-KZ lo-Laoo-LA ar-Arab-LB de-Latn-LI
   si-Sinh-LK st-Latn-LS lt-Latn-LT fr-Latn-LU lv-Latn-LV ar-Arab-LY ar-Arab-MA fr-Latn-MC
   ro-Latn-MD sr-Latn-ME fr-Latn-MF mg-Latn-MG mk-Cyrl-MK bm-Latn-ML my-Mymr-MM mn-Cyrl-MN
   zh-Hant-MO fr-Latn-MQ ar-Arab-MR mt-Latn-MT fr-Latn-MU dv-Thaa-MV es-Latn-MX ms-Latn-MY
   pt-Latn-MZ af-Latn-NA fr-Latn-NC ha-Latn-NE bi-Latn-NH es-Latn-NI nl-Latn-NL nb-Latn-NO
   ne-Deva-NP ar-Arab-NT ar-Arab-OM es-Latn-PA es-Latn-PE fr-Latn-PF tpi-Latn-PG fil-Latn-PH
   ur-Arab-PK pl-Latn-PL fr-Latn-PM es-Latn-PR ar-Arab-PS pt-Latn-PT pau-Latn-PW gn-Latn-PY
   ar-Arab-QA fr-Latn-RE sn-Latn-RH ro-Latn-RO sr-Cyrl-RS ru-Cyrl-RU rw-Latn-RW ar-Arab-SA
   fr-Latn-SC ar-Arab-SD sv-Latn-SE sl-Latn-SI nb-Latn-SJ sk-Latn-SK it-Latn-SM wo-Latn-SN
   so-Latn-SO nl-Latn-SR ar-Arab-SS pt-Latn-ST ru-Cyrl-SU es-Latn-SV ar-Arab-SY ar-Arab-TD
   fr-Latn-TF fr-Latn-TG th-Thai-TH tg-Cyrl-TJ tkl-Latn-TK pt-Latn-TL tk-Latn-TM ar-Arab-TN
   to-Latn-TO pt-Latn-TP tr-Latn-TR tvl-Latn-TV zh-Hant-TW sw-Latn-TZ uk-Cyrl-UA sw-Latn-UG
   es-Latn-UY uz-Latn-UZ it-Latn-VA vi-Latn-VD es-Latn-VE vi-Latn-VN bi-Latn-VU fr-Latn-WF
   sm-Latn-WS sq-Latn-XK ar-Arab-YD ar-Arab-YE fr-Latn-YT sr-Cyrl-YU fr-Latn-ZR sn-Latn-ZW"

/-- What a group of regions stands for. -/
def likelyInGroup : List (String × Tag) :=
  (Text.words
    "001-en-Latn-US 002-en-Latn-NG 003-en-Latn-US 005-pt-Latn-BR 009-en-Latn-AU 011-en-Latn-NG
     013-es-Latn-MX 014-sw-Latn-TZ 015-ar-Arab-EG 017-sw-Latn-CD 018-en-Latn-ZA 019-en-Latn-US
     021-en-Latn-US 029-es-Latn-CU 030-zh-Hans-CN 034-hi-Deva-IN 035-id-Latn-ID 039-it-Latn-IT
     053-en-Latn-AU 054-en-Latn-PG 057-en-Latn-GU 061-sm-Latn-WS 142-zh-Hans-CN 143-uz-Latn-UZ
     145-ar-Arab-SA 150-ru-Cyrl-RU 151-ru-Cyrl-RU 154-en-Latn-GB 155-de-Latn-DE 202-en-Latn-NG
     419-es-Latn-419 EU-en-Latn-GB").filterMap fun w =>
    match Text.splitOnChar w '-' with
    | [group, language, script, region] => some (group, { language, script, region })
    | _ => none

/-- Groups of regions and their parts. -/
def groupParts : List (String × List String) := [
  ("002", Text.words "015 011 017 014 018 202"),
  ("003", Text.words "013 021 029"),
  ("005", Text.words "AR BO BR BV CL CO EC FK GF GS GY PE PY SR UY VE"),
  ("009", Text.words "053 054 057 061 QO"),
  ("011", Text.words "BF BJ CI CV GH GM GN GW LR ML MR NE NG SH SL SN TG"),
  ("013", Text.words "BZ CR GT HN MX NI PA SV"),
  ("014", Text.words "BI DJ ER ET IO KE KM MG MU MW MZ RE RW SC SO SS TF TZ UG YT ZM ZW"),
  ("015", Text.words "DZ EA EG EH IC LY MA SD TN"),
  ("017", Text.words "AO CD CF CG CM GA GQ ST TD ZR"),
  ("018", Text.words "BW LS NA SZ ZA"),
  ("019", Text.words "003 005 013 021 029 419"),
  ("021", Text.words "BM CA GL PM US"),
  ("029", Text.words
    "AG AI AN AW BB BL BQ BS CU CW DM DO GD GP HT JM KN KY LC MF MQ MS PR SX TC TT VC VG VI"),
  ("030", Text.words "CN HK JP KP KR MN MO TW"),
  ("034", Text.words "AF BD BT IN IR LK MV NP PK"),
  ("035", Text.words "BN BU ID KH LA MM MY PH SG TH TL TP VN"),
  ("039", Text.words "AD AL BA CS ES GI GR HR IT ME MK MT PT RS SI SM VA XK YU"),
  ("053", Text.words "AU CC CX HM NF NZ"),
  ("054", Text.words "FJ NC PG SB VU"),
  ("057", Text.words "FM GU KI MH MP NR PW UM"),
  ("061", Text.words "AS CK NU PF PN TK TO TV WF WS"),
  ("142", Text.words "143 030 034 035 145"),
  ("143", Text.words "KG KZ TJ TM UZ"),
  ("145", Text.words "AE AM AZ BH CY GE IL IQ JO KW LB NT OM PS QA SA SY TR YD YE"),
  ("150", Text.words "154 155 151 039"),
  ("151", Text.words "BG BY CZ HU MD PL RO RU SK SU UA"),
  ("154", Text.words "AX DK EE FI FO GB GG IE IM IS JE LT LV NO SE SJ"),
  ("155", Text.words "AT BE CH DD DE FR FX LI LU MC NL"),
  ("202", Text.words "011 017 014 018"),
  ("419", Text.words "005 013 029"),
  ("QO", Text.words "AC AQ CP DG TA")]

/-- Whether a region is or holds another one; groups lie within groups up to a depth. -/
def holds : Nat → String → String → Bool
  | 0, group, region => group == region
  | n + 1, group, region =>
    group == region || group == "001" ||
      (groupParts.find? (·.1 == group)).any fun (_, parts) => parts.any fun p => holds n p region

/-- The depth of groups of regions. -/
def groupDepth : Nat := 4

namespace Tag

/-- A tag with what it does not say taken from another one. -/
def completedBy (t full : Tag) : Tag :=
  { t with
    language := if t.isOpen then full.language else t.language
    script := if t.script.isEmpty then full.script else t.script
    region := if t.region.isEmpty then full.region else t.region }

/-- A tag with a group of regions, where the group stands for a region in that language and
script. -/
def located (t : Tag) : Tag :=
  match likelyInGroup.find? (·.1 == t.region) with
  | some (_, full) =>
    if full.language == t.language && full.script == t.script then { t with region := full.region }
      else t
  | none => t

/-- What the language of a tag stands for, first of all by itself. -/
def readings (t : Tag) : List Tag :=
  likelyOfLanguage.filter (·.language == t.language) ++ likelyOfRegion.filter
    (·.language == t.language)

/-- Whether the language of a tag is written in more than one way. -/
def hasChoice (t : Tag) : Bool :=
  likelyOfScript.any (·.language == t.language) || likelyOfRegion.any (·.language == t.language)

/-- A tag whose region tells its script, when there is one way to tell. -/
def scriptByRegion? (t : Tag) : Option Tag :=
  if t.hasChoice && t.script.isEmpty && !t.region.isEmpty then
    match t.readings.filter fun full => holds groupDepth t.region full.region with
    | [full] => some { t with script := full.script, region := full.region }
    | _ => none
  else none

/-- A tag whose script tells its region. -/
def regionByScript? (t : Tag) : Option Tag :=
  if !t.script.isEmpty && t.region.isEmpty then
    (likelyOfScript.find? fun full => full.language == t.language && full.script == t.script).map
      t.completedBy
  else none

/-- The tag of a language with what is likely. -/
def filled (t : Tag) : Tag :=
  if !t.script.isEmpty && !t.region.isEmpty then t.located
  else match t.regionByScript? <|> t.scriptByRegion? with
    | some full => full
    | none =>
      match t.readings with
      | full :: _ => (t.completedBy full).located
      | [] => t

/-- A tag without a language, with what is likely. -/
def guessed (t : Tag) : Tag :=
  let inRegion := likelyInRegion.find? (·.region == t.region)
  let inScript := likelyInScript.find? (·.script == t.script)
  let both := inRegion.filter (·.script == t.script)
  match (if t.region.isEmpty then none else both) <|> inScript with
  | some full => t.completedBy full
  | none =>
    match likelyInGroup.find? (·.1 == t.region), inRegion with
    | some (_, full), _ => { t.completedBy full with region := full.region }
    | none, some full => t.completedBy full
    | none, none => t.completedBy { language := "en", script := "Latn", region := "US" }

/-- A tag with all that is likely.  Private tags stay as they are. -/
def full (t : Tag) : Tag :=
  if t.language.isEmpty then t
  else if t.isOpen then t.guessed
  else t.filled

end Tag

end Trellis.Locale
